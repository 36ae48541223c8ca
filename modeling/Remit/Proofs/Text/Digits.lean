import Mathlib.Algebra.Ring.Nat
import Remit.Text.Numeral

/-
  This file tells numbers from their digits. Digits denote less
  than the power of ten of their length, and among those of one
  length no two denote the same number. So the digits of a
  number are the fewest that denote it, and any others have
  zeros in front of these. Numbers are read from just the
  numerals that denote them.

  Key definitions include:
    * `Numeral.IsCount`

  Key theorems include:
    * `Numeral.value_append`
    * `Numeral.value_lt`
    * `Numeral.eq_of_value_eq`
    * `Numeral.padded_value`
    * `Numeral.length_digits_value_le`
    * `Numeral.head?_digits`
    * `Numeral.wordMax_lt_iff`
    * `Numeral.unsigned?_eq_some_iff`
-/

namespace Remit.Numeral

variable {cs ds : List Char} {c : Char}

------------------------------------------------------------
-- Digits
------------------------------------------------------------

/- Characters put together are digits when both parts are. -/
theorem isDigits_append :
    IsDigits (cs ++ ds) ↔ IsDigits cs ∧ IsDigits ds :=
  List.forall_mem_append

/- One more character is a digit too. -/
theorem isDigits_cons :
    IsDigits (c :: cs) ↔ c.isDigit = true ∧ IsDigits cs :=
  List.forall_mem_cons

/- Zeros are digits. -/
theorem isDigits_zeros
    (n : Nat) :
    IsDigits (List.replicate n '0') := by
  intro d hd
  rw [List.eq_of_mem_replicate hd]
  rfl

/- The digits of a number with zeros in front are digits. -/
theorem isDigits_padded
    (width n : Nat) :
    IsDigits (padded width n) :=
  isDigits_append.mpr ⟨isDigits_zeros _, isDigits_digits n⟩

/- The code point of a digit tells which one it is. -/
private theorem toNat_of_isDigit
    (h : c.isDigit = true) :
    '0'.toNat ≤ c.toNat ∧ c.toNat < '0'.toNat + 10 := by
  have hBounds : 48 ≤ c.toNat ∧ c.toNat ≤ 57 :=
    Char.isDigit_iff_toNat.mp h
  change 48 ≤ c.toNat ∧ c.toNat < 58
  omega

------------------------------------------------------------
-- Values
------------------------------------------------------------

/- Digits in front count for a power of ten each. -/
theorem value_append
    (cs ds : List Char) :
    value (cs ++ ds) = value cs * 10 ^ ds.length + value ds := by
  unfold value
  rw [Nat.ofDigitChars_append,
    Nat.ofDigitChars_eq_ofDigitChars_zero, Nat.mul_comm]

/- The first digit counts for the power of ten of the others. -/
theorem value_cons
    (c : Char)
    (cs : List Char) :
    value (c :: cs) =
      (c.toNat - '0'.toNat) * 10 ^ cs.length + value cs := by
  rw [← List.singleton_append, value_append]
  simp [value, Nat.ofDigitChars_cons, Nat.ofDigitChars_nil]

/- Zeros behind a number make it greater by powers of ten. -/
theorem value_append_zeros
    (cs : List Char)
    (n : Nat) :
    value (cs ++ List.replicate n '0') = value cs * 10 ^ n := by
  unfold value
  rw [Nat.ofDigitChars_append, Nat.ofDigitChars_replicate_zero,
    Nat.mul_comm]

/- Digits denote less than the power of ten of their length. -/
theorem value_lt
    (h : IsDigits cs) :
    value cs < 10 ^ cs.length := by
  induction cs with
  | nil => decide
  | cons c cs ih =>
      rcases isDigits_cons.mp h with ⟨hFirst, hRest⟩
      have hValue := ih hRest
      have hDigit := toNat_of_isDigit hFirst
      have hFactor : c.toNat - '0'.toNat + 1 ≤ 10 := by omega
      rw [value_cons, List.length_cons]
      calc
        (c.toNat - '0'.toNat) * 10 ^ cs.length + value cs
            < (c.toNat - '0'.toNat + 1) * 10 ^ cs.length := by
          rw [Nat.add_mul, Nat.one_mul]
          omega
        _ ≤ 10 * 10 ^ cs.length := Nat.mul_le_mul_right _ hFactor
        _ = 10 ^ (cs.length + 1) := by rw [Nat.pow_succ, Nat.mul_comm]

/-
  As many digits that denote the same number are the same. The
  induction is on both from the front: the first digit is the
  quotient by a power of ten, and the others are the remainder.
-/
theorem eq_of_value_eq
    (hc : IsDigits cs)
    (hd : IsDigits ds)
    (hLength : cs.length = ds.length)
    (h : value cs = value ds) :
    cs = ds := by
  induction cs generalizing ds with
  | nil => exact (List.length_eq_zero_iff.mp hLength.symm).symm
  | cons c cs ih =>
      cases ds with
      | nil => cases hLength
      | cons d ds =>
          rcases isDigits_cons.mp hc with ⟨hcFirst, hcRest⟩
          rcases isDigits_cons.mp hd with ⟨hdFirst, hdRest⟩
          have hRest : cs.length = ds.length := Nat.succ.inj hLength
          have hcLt := value_lt hcRest
          have hdLt := value_lt hdRest
          have hPos : 0 < 10 ^ ds.length := Nat.pow_pos (by decide)
          rw [value_cons, value_cons, hRest] at h
          rw [hRest] at hcLt
          have hQuotient :
              c.toNat - '0'.toNat = d.toNat - '0'.toNat := by
            have hDiv := congrArg (· / 10 ^ ds.length) h
            simpa only [Nat.mul_comm _ (10 ^ ds.length),
              Nat.mul_add_div hPos, Nat.div_eq_of_lt hcLt,
              Nat.div_eq_of_lt hdLt, Nat.add_zero] using hDiv
          have hRemainder : value cs = value ds := by
            rw [hQuotient] at h
            exact Nat.add_left_cancel h
          have hcDigit := toNat_of_isDigit hcFirst
          have hdDigit := toNat_of_isDigit hdFirst
          have hSame : c = d := Char.toNat_inj.mp (by omega)
          rw [hSame, ih hcRest hdRest hRest hRemainder]

------------------------------------------------------------
-- The Fewest Digits
------------------------------------------------------------

/- A number has at least one digit. -/
theorem digits_ne_nil
    (n : Nat) :
    digits n ≠ [] :=
  Nat.toDigits_ne_nil

/- A number below a power of ten is written in that width. -/
theorem length_padded
    {width n : Nat}
    (hWidth : 0 < width)
    (h : n < 10 ^ width) :
    (padded width n).length = width := by
  have hFits : (digits n).length ≤ width :=
    (Nat.length_toDigits_le_iff (by decide) hWidth).mpr h
  rw [padded, List.length_append, List.length_replicate]
  omega

/- Digits are those of their number, with zeros in front. -/
theorem padded_value
    (h : IsDigits cs)
    (hSome : cs ≠ []) :
    padded cs.length (value cs) = cs := by
  apply eq_of_value_eq (isDigits_padded _ _) h
  · exact length_padded (List.length_pos_iff.mpr hSome) (value_lt h)
  · exact value_padded _ _

/- No digits that denote a number are fewer than its own. -/
theorem length_digits_value_le
    (h : IsDigits cs)
    (hSome : cs ≠ []) :
    (digits (value cs)).length ≤ cs.length :=
  (Nat.length_toDigits_le_iff (by decide)
    (List.length_pos_iff.mpr hSome)).mpr (value_lt h)

/- The first digit of a number is a zero for zero only. -/
theorem head?_digits
    {n : Nat}
    (h : (digits n).head? = some '0') :
    digits n = ['0'] := by
  rcases List.head?_eq_some_iff.mp h with ⟨rest, hDigits⟩
  have hAll := isDigits_digits n
  rw [hDigits] at hAll
  -- Without the zero the others denote the number as well.
  have hValue : value rest = n := by
    rw [← value_digits n, hDigits, value_cons]
    simp
  by_cases hRest : rest = []
  · rw [hDigits, hRest]
  · have hFewest :=
      length_digits_value_le (isDigits_cons.mp hAll).2 hRest
    rw [hValue, hDigits, List.length_cons] at hFewest
    omega

------------------------------------------------------------
-- Reading Numbers
------------------------------------------------------------

/- A number is read from the digits that denote it, within a bound. -/
theorem natural?_eq_some_iff
    {most n : Nat} :
    natural? most cs = some n ↔
      cs ≠ [] ∧ IsDigits cs ∧ value cs = n ∧ n ≤ most := by
  unfold natural?
  split
  · rename_i h
    rw [within?_eq, Option.filter_eq_some_iff, Option.some.injEq,
      decide_eq_true_eq]
    exact ⟨fun hn => ⟨h.1, h.2, hn⟩, fun hn => hn.2.2⟩
  · rename_i h
    exact iff_of_false nofun (fun hn => h ⟨hn.1, hn.2.1⟩)

/- A number is above every word exactly if it reaches their size. -/
theorem wordMax_lt_iff
    {n : Nat} :
    wordMax < n ↔ 2 ^ 64 ≤ n :=
  Nat.lt_iff_add_one_le

/-
  Characters denote a number of 64 bits: they are its digits, at
  least one, and a plus sign may stand in front.
-/
def IsCount (cs : List Char) (n : Nat) : Prop :=
  ∃ ds, (cs = ds ∨ cs = '+' :: ds) ∧
    ds ≠ [] ∧ IsDigits ds ∧ value ds = n ∧ n < 2 ^ 64

/- An unsigned number is read from characters that denote it. -/
theorem unsigned?_eq_some_iff
    {n : Nat} :
    unsigned? cs = some n ↔ IsCount cs n := by
  have hWord : n ≤ wordMax ↔ n < 2 ^ 64 := by
    rw [← Nat.not_lt, wordMax_lt_iff, Nat.not_le]
  unfold unsigned? IsCount
  split
  · rename_i rest
    rw [natural?_eq_some_iff, hWord]
    constructor
    · exact fun h => ⟨rest, Or.inr rfl, h⟩
    · rintro ⟨ds, rfl | hSign, hSome, hDigits, hRest⟩
      · -- A plus sign is no digit.
        cases (isDigits_cons.mp hDigits).1
      · rw [(List.cons.inj hSign).2]
        exact ⟨hSome, hDigits, hRest⟩
  · rename_i hPlain
    rw [natural?_eq_some_iff, hWord]
    constructor
    · exact fun h => ⟨cs, Or.inl rfl, h⟩
    · rintro ⟨ds, rfl | hSign, h⟩
      · exact h
      · exact absurd hSign (hPlain ds)

end Remit.Numeral
