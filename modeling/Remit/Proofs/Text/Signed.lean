import Remit.Proofs.Text.Digits

/-
  This file states which characters denote a signed number of 64
  bits, shows that exactly these are read, and that the numeral
  of a number denotes it.

  Key definitions include:
    * `Numeral.IsSigned`

  Key theorems include:
    * `Numeral.signed?_eq_some_iff`
    * `Numeral.isSigned_ofInt`
-/

namespace Remit.Numeral

variable {cs : List Char} {k : Int64} {n : Nat}

/-
  Characters denote a signed number of 64 bits: they are the
  digits of its size, at least one, behind a minus sign if it is
  negative. Otherwise a plus sign may stand in front. Zero may
  have either sign.
-/
def IsSigned (cs : List Char) (k : Int64) : Prop :=
  ∃ ds, ds ≠ [] ∧ IsDigits ds ∧
    ((cs = '-' :: ds ∧ k.toInt = -(value ds : Int)) ∨
      ((cs = ds ∨ cs = '+' :: ds) ∧ k.toInt = value ds))

/- A number that is not positive, within the bound of its word. -/
private theorem toInt_eq_neg_iff :
    k.toInt = -(n : Int) ↔
      n ≤ signedBound ∧ Int64.ofInt (-n) = k := by
  have hBound : signedBound = 2 ^ 63 := rfl
  have hLeast := k.le_toInt
  rw [hBound]
  constructor
  · intro h
    rw [← h]
    exact ⟨by omega, k.ofInt_toInt⟩
  · rintro ⟨hn, rfl⟩
    exact Int64.toInt_ofInt_of_le (by omega) (by omega)

/- A number that is not negative, within the bound of its word. -/
private theorem toInt_eq_iff :
    k.toInt = (n : Int) ↔
      n ≤ signedBound - 1 ∧ Int64.ofNat n = k := by
  have hBound : signedBound = 2 ^ 63 := rfl
  have hMost := k.toInt_lt
  rw [hBound, ← Int64.ofInt_eq_ofNat]
  constructor
  · intro h
    rw [← h]
    exact ⟨by omega, k.ofInt_toInt⟩
  · rintro ⟨hn, rfl⟩
    exact Int64.toInt_ofInt_of_le (by omega) (by omega)

/- What is made of a number that is read. -/
private theorem map_natural?_eq_some_iff
    {most : Nat}
    {f : Nat → Int64} :
    (natural? most cs).map f = some k ↔
      cs ≠ [] ∧ IsDigits cs ∧ value cs ≤ most ∧ f (value cs) = k := by
  rw [Option.map_eq_some_iff]
  simp only [natural?_eq_some_iff]
  constructor
  · rintro ⟨_, ⟨hSome, hDigits, rfl, hMost⟩, hf⟩
    exact ⟨hSome, hDigits, hMost, hf⟩
  · rintro ⟨hSome, hDigits, hMost, hf⟩
    exact ⟨_, ⟨hSome, hDigits, rfl, hMost⟩, hf⟩

/- The number behind a minus sign is taken for an integer first. -/
private theorem map_neg_eq
    (x : Option Nat) :
    Option.map (fun m : Int => Int64.ofInt (-m))
        (do
          let m ← x
          pure (m : Int)) =
      Option.map (fun m : Nat => Int64.ofInt (-m)) x := by
  cases x <;> rfl

/- A signed number is read from characters that denote it. -/
theorem signed?_eq_some_iff :
    signed? cs = some k ↔ IsSigned cs k := by
  unfold signed? IsSigned
  split
  · rename_i rest
    rw [map_neg_eq, map_natural?_eq_some_iff, ← toInt_eq_neg_iff]
    constructor
    · rintro ⟨hSome, hDigits, hValue⟩
      exact ⟨rest, hSome, hDigits, Or.inl ⟨rfl, hValue⟩⟩
    · rintro ⟨ds, hSome, hDigits, ⟨hEq, hValue⟩ | ⟨rfl | hSign, _⟩⟩
      · cases hEq
        exact ⟨hSome, hDigits, hValue⟩
      · -- A minus sign is no digit.
        cases (isDigits_cons.mp hDigits).1
      · cases hSign
  · rename_i rest
    rw [map_natural?_eq_some_iff, ← toInt_eq_iff]
    constructor
    · rintro ⟨hSome, hDigits, hValue⟩
      exact ⟨rest, hSome, hDigits, Or.inr ⟨Or.inr rfl, hValue⟩⟩
    · rintro ⟨ds, hSome, hDigits, ⟨hEq, _⟩ | ⟨rfl | hSign, hValue⟩⟩
      · cases hEq
      · -- A plus sign is no digit.
        cases (isDigits_cons.mp hDigits).1
      · cases hSign
        exact ⟨hSome, hDigits, hValue⟩
  · rename_i hMinus hPlus
    rw [map_natural?_eq_some_iff, ← toInt_eq_iff]
    constructor
    · rintro ⟨hSome, hDigits, hValue⟩
      exact ⟨cs, hSome, hDigits, Or.inr ⟨Or.inl rfl, hValue⟩⟩
    · rintro ⟨ds, hSome, hDigits, ⟨hEq, _⟩ | ⟨rfl | hSign, hValue⟩⟩
      · exact absurd hEq (hMinus ds)
      · exact ⟨hSome, hDigits, hValue⟩
      · exact absurd hSign (hPlus ds)

/- The numeral of a number denotes it. -/
theorem isSigned_ofInt
    (k : Int64) :
    IsSigned (ofInt k.toInt).toList k := by
  cases hInt : k.toInt with
  | ofNat n =>
      refine ⟨digits n, digits_ne_nil n, isDigits_digits n, ?_⟩
      rw [ofInt, ofNat, String.toList_ofList, value_digits, hInt]
      exact Or.inr ⟨Or.inl rfl, rfl⟩
  | negSucc n =>
      refine
        ⟨digits (n + 1), digits_ne_nil _, isDigits_digits _, ?_⟩
      rw [ofInt, String.toList_ofList, value_digits, hInt]
      exact Or.inl ⟨rfl, rfl⟩

end Remit.Numeral
