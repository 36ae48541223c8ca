/-
  This file defines small operations on the characters of a
  text: letter case within ASCII, leading parts, parts between
  separators, and occurrence.

  Key definitions include:
    * `Text.lower`
    * `Text.after?`
    * `Text.split`
    * `Text.Occurs`
-/

namespace Remit.Text

/- The text with its ASCII capitals made small. -/
def lower (s : String) : String :=
  String.ofList (s.toList.map Char.toLower)

/- What follows `lead`, when the characters start with it. -/
def after? (lead : List Char) (cs : List Char) : Option (List Char) :=
  if lead.isPrefixOf cs then
    some (cs.drop lead.length)
  else
    none

/-
  The parts between the separators, in order. There is always
  one part more than there are separators.
-/
def split (sep : Char) : List Char → List (List Char)
| [] => [[]]
| c :: cs =>
    if c = sep then
      [] :: split sep cs
    else
      match split sep cs with
      | [] => [[c]]
      | part :: parts => (c :: part) :: parts

/- `needle` occurs somewhere in the characters. -/
def Occurs (needle : List Char) : List Char → Prop
| [] => needle = []
| c :: cs => needle.isPrefixOf (c :: cs) = true ∨ Occurs needle cs

instance decidableOccurs
    (needle : List Char) :
    (cs : List Char) → Decidable (Occurs needle cs)
| [] => inferInstanceAs (Decidable (needle = []))
| c :: cs =>
    have := decidableOccurs needle cs
    inferInstanceAs
      (Decidable
        (needle.isPrefixOf (c :: cs) = true ∨ Occurs needle cs))

/- Some of the needles occurs in the text. -/
def Mentions (s : String) (needles : List String) : Prop :=
  ∃ needle ∈ needles, Occurs needle.toList s.toList

instance (s : String) (needles : List String) :
    Decidable (Mentions s needles) := by
  unfold Mentions
  infer_instance

/- A leading part is what was put in front. -/
theorem after?_append
    (lead : List Char)
    (cs : List Char) :
    after? lead (lead ++ cs) = some cs := by
  simp [after?]

/- Splitting yields at least one part. -/
theorem split_ne_nil
    (sep : Char)
    (cs : List Char) :
    split sep cs ≠ [] := by
  cases cs with
  | nil => simp [split]
  | cons _ _ =>
      rw [split]
      split
      · exact List.cons_ne_nil _ _
      · split <;> exact List.cons_ne_nil _ _

end Remit.Text
