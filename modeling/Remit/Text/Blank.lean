/-
  This file defines the blank characters of a text and what
  is left of a text when blanks are cut from both its ends.

  Key definitions include:
    * `Text.blanks`
    * `Text.IsBlank`
    * `Text.trimList`
    * `Text.trim`
-/

namespace Remit.Text

/-
  The characters with the Unicode property `White_Space`, in
  the order of their code points.
-/
def blanks : List Char :=
  ['\t', '\n', '\x0b', '\x0c', '\r', ' ', '\u0085', '\u00a0',
   '\u1680', '\u2000', '\u2001', '\u2002', '\u2003', '\u2004',
   '\u2005', '\u2006', '\u2007', '\u2008', '\u2009', '\u200a',
   '\u2028', '\u2029', '\u202f', '\u205f', '\u3000']

/- A character is blank when it is white space. -/
def IsBlank (c : Char) : Prop :=
  c ∈ blanks

instance (c : Char) : Decidable (IsBlank c) := by
  unfold IsBlank
  infer_instance

/- Leave out the blanks at the start. -/
def trimStart (cs : List Char) : List Char :=
  cs.dropWhile (fun c => decide (IsBlank c))

/- Leave out the blanks at the end. -/
def trimEnd (cs : List Char) : List Char :=
  (trimStart cs.reverse).reverse

/- Leave out the blanks at both ends. -/
def trimList (cs : List Char) : List Char :=
  trimEnd (trimStart cs)

/- Leave out the blanks at both ends of a text. -/
def trim (s : String) : String :=
  String.ofList (trimList s.toList)

/- A text is all blank when nothing but blanks is in it. -/
def AllBlank (s : String) : Prop :=
  trimList s.toList = []

instance (s : String) : Decidable (AllBlank s) := by
  unfold AllBlank
  infer_instance

/- Trimming a text trims its characters. -/
theorem toList_trim
    (s : String) :
    (trim s).toList = trimList s.toList := by
  simp [trim]

end Remit.Text
