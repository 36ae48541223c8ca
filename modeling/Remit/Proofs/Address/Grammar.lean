import Remit.Address

/-
  This file states the grammar of shielded addresses and shows
  that exactly the texts of the grammar are accepted, blanks at
  their ends aside.

  Key definitions include:
    * `Address.IsShielded`

  Key theorems include:
    * `Address.networkOf?_opening`
    * `Address.check_eq_ok_iff`
-/

namespace Remit

namespace Address

/-
  The characters are an address of a network: its lead, the
  digit one, and data of the alphabet within the bounds on its
  length.
-/
def IsShielded (n : Network) (cs : List Char) : Prop :=
  ∃ data, cs = opening n ++ data ∧ IsData data ∧
    leastData ≤ data.length ∧ data.length ≤ mostData

/- Every character of the alphabet is a small letter or a digit. -/
private theorem isPlain_alphabet :
    IsPlain alphabet := by
  decide

/- Every opening consists of small letters and digits. -/
private theorem isPlain_opening
    (n : Network) :
    IsPlain (opening n) := by
  cases n <;> decide

/- An address consists of small letters and digits. -/
theorem isPlain_of_isShielded
    {n : Network}
    {cs : List Char}
    (h : IsShielded n cs) :
    IsPlain cs := by
  rcases h with ⟨data, rfl, hData, _⟩
  intro c hc
  rcases List.mem_append.mp hc with hc | hc
  · exact isPlain_opening n c hc
  · exact isPlain_alphabet c (hData c hc)

/- Small letters and digits are no other characters. -/
theorem not_mem_of_isPlain
    {c : Char}
    {cs : List Char}
    (hLower : c.isLower = false)
    (hDigit : c.isDigit = false)
    (h : IsPlain cs) :
    c ∉ cs := by
  intro hc
  rcases h c hc with hIs | hIs
  · rw [hLower] at hIs
    cases hIs
  · rw [hDigit] at hIs
    cases hIs

/- No opening is the start of another, so it tells the network. -/
theorem networkOf?_opening
    (n : Network)
    (data : List Char) :
    networkOf? (opening n ++ data) = some n := by
  cases n <;> rfl

/- A network that is found has its opening in front. -/
private theorem opening_append_of_networkOf?
    {n : Network}
    {cs : List Char}
    (h : networkOf? cs = some n) :
    opening n ++ cs.drop (opening n).length = cs := by
  have hPrefix :=
    List.find?_some (p := fun n => (opening n).isPrefixOf cs) h
  exact List.prefix_iff_eq_append.mp
    (List.isPrefixOf_iff_prefix.mp hPrefix)

/- Trimmed characters are accepted exactly when they are an address. -/
theorem checkList_eq_ok_iff
    {n : Network}
    {cs : List Char} :
    checkList n cs = .ok () ↔ IsShielded n cs := by
  constructor
  · intro h
    unfold checkList at h
    split at h
    · cases h
    split at h
    · cases h
    cases hNetwork : networkOf? cs with
    | none =>
        rw [hNetwork] at h
        cases h
    | some found =>
        simp only [hNetwork] at h
        split at h
        · cases h
        · rename_i hFound
          have hFound : found = n := Decidable.not_not.mp hFound
          subst hFound
          split at h
          · cases h
          · rename_i hData
            split at h
            · rename_i hSize
              exact
                ⟨cs.drop (opening found).length,
                  (opening_append_of_networkOf? hNetwork).symm,
                  Decidable.not_not.mp hData, hSize.1, hSize.2⟩
            · cases h
  · intro h
    have hPlain := isPlain_of_isShielded h
    rcases h with ⟨data, rfl, hData, hLeast, hMost⟩
    have hNonempty : opening n ++ data ≠ [] := by
      cases n <;> simp [opening]
    simp [checkList, hNonempty, hPlain, networkOf?_opening,
      hData, hLeast, hMost]

/- A text is accepted exactly when it is an address once trimmed. -/
theorem check_eq_ok_iff
    {n : Network}
    {s : String} :
    check n s = .ok () ↔ IsShielded n (Text.trimList s.toList) :=
  checkList_eq_ok_iff

end Address

end Remit
