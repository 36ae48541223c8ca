import Mathlib.Data.List.DropRight
import Remit.Text.Blank

/-
  This file tells how a trimmed text begins: with no blank, and
  as the text itself did unless that began with a blank. A text
  without blanks is trimmed, and so is what was trimmed before.
  Of blanks alone nothing is left.

  Key theorems include:
    * `Text.not_isBlank_of_isDigit`
    * `Text.not_isBlank_of_head?_trimList`
    * `Text.head?_of_head?_trimList`
    * `Text.trimList_sublist`
    * `Text.trimList_of_not_isBlank`
    * `Text.trimList_eq_nil_iff`
    * `Text.trimList_trimList`
-/

namespace Remit.Text

variable {cs : List Char} {c : Char}

/- Blanks are not digits. -/
theorem not_isBlank_of_isDigit
    (h : c.isDigit = true) :
    ¬ IsBlank c := by
  have hNone : blanks.filter Char.isDigit = [] := by decide
  exact fun hBlank => List.filter_eq_nil_iff.mp hNone c hBlank h

/- Whatever is left out at the end, the start stays. -/
theorem trimEnd_prefix
    (cs : List Char) :
    trimEnd cs <+: cs :=
  List.rdropWhile_prefix _ cs

/- A trimmed text begins where the blanks at the start end. -/
private theorem head?_trimStart
    (h : (trimList cs).head? = some c) :
    (trimStart cs).head? = some c := by
  rcases trimEnd_prefix (trimStart cs) with ⟨left, hPrefix⟩
  change (trimEnd (trimStart cs)).head? = some c at h
  rw [← hPrefix, List.head?_append, h]
  rfl

/- A trimmed text does not begin with a blank. -/
theorem not_isBlank_of_head?_trimList
    (h : (trimList cs).head? = some c) :
    ¬ IsBlank c := by
  have hNot := List.head?_dropWhile_not (fun c => decide (IsBlank c)) cs
  have hHead : (cs.dropWhile _).head? = some c := head?_trimStart h
  rw [hHead] at hNot
  exact of_decide_eq_false hNot

/-
  What begins a trimmed text began the text before, or else the
  text began with a blank.
-/
theorem head?_of_head?_trimList
    (h : (trimList cs).head? = some c) :
    cs.head? = some c ∨ ∃ b, cs.head? = some b ∧ IsBlank b := by
  have hHead := head?_trimStart h
  cases cs with
  | nil => cases hHead
  | cons b rest =>
      by_cases hBlank : IsBlank b
      · exact Or.inr ⟨b, rfl, hBlank⟩
      · unfold trimStart at hHead
        rw [List.dropWhile_cons_of_neg (by simpa using hBlank)]
          at hHead
        exact Or.inl hHead

/- Trimming leaves out characters only. -/
theorem trimList_sublist
    (cs : List Char) :
    (trimList cs).Sublist cs := by
  have hEnd := trimEnd_prefix (trimStart cs)
  exact hEnd.sublist.trans (List.dropWhile_sublist _)

/- Without blanks nothing is left out. -/
theorem trimList_of_not_isBlank
    (h : ∀ c ∈ cs, ¬ IsBlank c) :
    trimList cs = cs := by
  have hKept :
      ∀ ds : List Char, (∀ c ∈ ds, ¬ IsBlank c) →
        trimStart ds = ds := by
    intro ds hds
    cases ds with
    | nil => rfl
    | cons d ds =>
        have hFirst := hds d List.mem_cons_self
        exact List.dropWhile_cons_of_neg (by simpa using hFirst)
  have hReverse :
      ∀ c ∈ cs.reverse, ¬ IsBlank c :=
    fun c hc => h c (List.mem_reverse.mp hc)
  rw [trimList, hKept cs h, trimEnd, hKept cs.reverse hReverse,
    List.reverse_reverse]

/- Nothing is left of blanks alone. -/
theorem trimList_eq_nil_iff :
    trimList cs = [] ↔ ∀ c ∈ cs, IsBlank c := by
  have hStart :
      ∀ ds : List Char, trimStart ds = [] ↔ ∀ c ∈ ds, IsBlank c := by
    intro ds
    unfold trimStart
    rw [List.dropWhile_eq_nil_iff]
    simp only [decide_eq_true_eq]
  unfold trimList trimEnd
  rw [List.reverse_eq_nil_iff, hStart]
  simp only [List.mem_reverse]
  constructor
  · intro hRest
    -- A first character that is kept would be a blank as well.
    refine (hStart cs).mp ?_
    cases hKept : trimStart cs with
    | nil => rfl
    | cons c rest =>
        have hNot :=
          List.head?_dropWhile_not (fun c => decide (IsBlank c)) cs
        have hHead : (cs.dropWhile _).head? = some c :=
          congrArg List.head? hKept
        rw [hHead] at hNot
        have hBlank : IsBlank c := by
          apply hRest
          rw [hKept]
          exact List.mem_cons_self
        exact absurd hBlank (of_decide_eq_false hNot)
  · intro hAll c hc
    exact hAll c ((List.dropWhile_sublist _).mem hc)

/- Nothing is left to leave out of trimmed characters. -/
theorem trimList_trimList
    (cs : List Char) :
    trimList (trimList cs) = trimList cs := by
  have hStart : trimStart (trimList cs) = trimList cs := by
    cases h : trimList cs with
    | nil => rfl
    | cons c rest =>
        have hHead : (trimList cs).head? = some c := by
          rw [h]
          rfl
        have hNot := not_isBlank_of_head?_trimList hHead
        exact List.dropWhile_cons_of_neg (by simpa using hNot)
  calc
    trimList (trimList cs) = trimEnd (trimStart (trimList cs)) := rfl
    _ = trimEnd (trimEnd (trimStart cs)) := by rw [hStart]; rfl
    _ = trimEnd (trimStart cs) := List.rdropWhile_idempotent _ _

end Remit.Text
