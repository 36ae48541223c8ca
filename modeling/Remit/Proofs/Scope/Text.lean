import Remit.Proofs.Text.Separated
import Remit.Proofs.Text.Trimming
import Remit.Scope.Text

/-
  This file shows that scopes can be told from their texts, and
  that no blanks are in these.

  Key theorems include:
    * `Scope.text_injective`
    * `Scope.not_mem_text_of_isBlank`
    * `Scope.not_mem_text`
-/

namespace Remit

namespace Scope

/- The characters of the identifiers in a set, one list for each. -/
def numerals (ids : IdSet) : List (List Char) :=
  ids.toList.map (fun id => (Numeral.ofInt id.toInt).toList)

theorem toList_idsText
    (ids : IdSet) :
    (idsText ids).toList = [','].intercalate (numerals ids) := by
  rw [idsText, String.toList_intercalate, List.map_map]
  rfl

/- The numerals hold nothing but digits and minus signs. -/
theorem not_mem_numerals
    {c : Char}
    (hc : c.isDigit = false)
    (hMinus : c ≠ '-')
    (ids : IdSet) :
    ∀ l ∈ numerals ids, c ∉ l := by
  intro l hl
  rcases List.mem_map.mp hl with ⟨id, _, rfl⟩
  exact Numeral.not_mem_ofInt hc hMinus _

/- Identifiers with the same numeral are the same. -/
private theorem numeral_injective :
    Function.Injective
      (fun id : Int64 => (Numeral.ofInt id.toInt).toList) := by
  intro x y h
  exact Int64.toInt_inj.mp (Numeral.toList_ofInt_inj h)

/- No numeral is empty. -/
theorem nil_not_mem_numerals
    (ids : IdSet) :
    [] ∉ numerals ids := by
  intro h
  rcases List.mem_map.mp h with ⟨id, _, hNil⟩
  cases hInt : id.toInt with
  | ofNat n =>
      rw [hInt, Numeral.ofInt, Numeral.ofNat,
        String.toList_ofList] at hNil
      exact Nat.toDigits_ne_nil hNil
  | negSucc n =>
      rw [hInt, Numeral.ofInt, String.toList_ofList] at hNil
      cases hNil

/- Only the empty set has an empty text. -/
private theorem intercalate_numerals_eq_nil
    {ids : IdSet}
    (h : [','].intercalate (numerals ids) = []) :
    numerals ids = [] := by
  cases hNumerals : numerals ids with
  | nil => rfl
  | cons l ls =>
      cases l with
      | nil =>
          apply absurd List.mem_cons_self
          rw [← hNumerals]
          exact nil_not_mem_numerals ids
      | cons c cs =>
          rw [hNumerals, List.intercalate_cons_cons_left] at h
          cases h

/- Sets of identifiers can be told from their texts. -/
theorem idsText_injective :
    Function.Injective idsText := by
  intro s t h
  have hList := congrArg String.toList h
  rw [toList_idsText, toList_idsText] at hList
  have hNumerals : numerals s = numerals t := by
    by_cases hs : numerals s = []
    · rw [hs] at hList
      rw [hs, intercalate_numerals_eq_nil hList.symm]
    · by_cases ht : numerals t = []
      · rw [ht] at hList
        exact absurd (intercalate_numerals_eq_nil hList) hs
      · exact
          Text.intercalate_inj
            (not_mem_numerals (c := ',') rfl (by decide) s)
            (not_mem_numerals (c := ',') rfl (by decide) t)
            hs ht hList
  have hIds := (List.map_inj_right numeral_injective).mp hNumerals
  cases s
  cases t
  cases hIds
  rfl

/- The first two characters tell the kinds of scope apart. -/
private def opening : Scope → List Char
| auto => ['a', 'u']
| key _ => ['k', 'e']
| addresses _ => ['a', 'd']

private theorem take_text
    (s : Scope) :
    s.text.toList.take 2 = s.opening := by
  cases s with
  | auto => rfl
  | key id =>
      change ("key:" ++ Numeral.ofInt id.toInt).toList.take 2 = _
      rw [String.toList_append]
      rfl
  | addresses ids =>
      change ("addresses:" ++ idsText ids).toList.take 2 = _
      rw [String.toList_append]
      rfl

/- Scopes can be told from their texts. -/
theorem text_injective :
    Function.Injective text := by
  intro s t h
  have hOpening : s.opening = t.opening := by
    rw [← take_text, ← take_text, h]
  cases s with
  | auto =>
      cases t with
      | auto => rfl
      | key id => cases hOpening
      | addresses ids => cases hOpening
  | key id =>
      cases t with
      | auto => cases hOpening
      | key id' =>
          have hNumeral :=
            (String.append_right_inj "key:").mp h
          have hInt :=
            Numeral.toList_ofInt_inj (congrArg String.toList hNumeral)
          rw [Int64.toInt_inj.mp hInt]
      | addresses ids => cases hOpening
  | addresses ids =>
      cases t with
      | auto => cases hOpening
      | key id => cases hOpening
      | addresses ids' =>
          have hIds :=
            (String.append_right_inj "addresses:").mp h
          rw [idsText_injective hIds]

/- No blank stands in the text of a scope. -/
theorem not_mem_text_of_isBlank
    {c : Char}
    (h : Text.IsBlank c)
    (s : Scope) :
    c ∉ s.text.toList := by
  have hNone :
      ("auto".toList ++ "key:".toList ++ "addresses:".toList
        ++ ['-', ',']).filter (fun d => Text.IsBlank d) = [] := by
    decide
  have hPlain :
      ∀ d ∈ "auto".toList ++ "key:".toList ++ "addresses:".toList
        ++ ['-', ','], ¬ Text.IsBlank d := by
    intro d hd hBlank
    exact List.filter_eq_nil_iff.mp hNone d hd (decide_eq_true hBlank)
  have hDigit : c.isDigit = false :=
    Bool.eq_false_iff.mpr (fun hc => Text.not_isBlank_of_isDigit hc h)
  have hMinus : c ≠ '-' := by
    rintro rfl
    exact hPlain _ (by decide) h
  have hComma : c ≠ ',' := by
    rintro rfl
    exact hPlain _ (by decide) h
  cases s with
  | auto =>
      intro hMem
      refine hPlain c ?_ h
      simp only [List.mem_append]
      exact Or.inl (Or.inl (Or.inl hMem))
  | key id =>
      change c ∉ ("key:" ++ Numeral.ofInt id.toInt).toList
      rw [String.toList_append, List.mem_append]
      rintro (hMem | hMem)
      · refine hPlain c ?_ h
        simp only [List.mem_append]
        exact Or.inl (Or.inl (Or.inr hMem))
      · exact Numeral.not_mem_ofInt hDigit hMinus _ hMem
  | addresses ids =>
      change c ∉ ("addresses:" ++ idsText ids).toList
      rw [String.toList_append, List.mem_append, toList_idsText]
      rintro (hMem | hMem)
      · refine hPlain c ?_ h
        simp only [List.mem_append]
        exact Or.inl (Or.inr hMem)
      · exact
          Text.not_mem_intercalate hComma
            (not_mem_numerals hDigit hMinus ids) hMem

/- A scope is written on one line. -/
theorem not_mem_text
    (s : Scope) :
    '\n' ∉ s.text.toList :=
  not_mem_text_of_isBlank (by decide) s

end Scope

end Remit
