import Mathlib.Algebra.Order.Floor.Semifield
import Mathlib.Data.Rat.Floor
import Mathlib.Tactic.FieldSimp
import Mathlib.Tactic.Ring
import Remit.Proofs.Amount.Machine

/-
  This file states what the arithmetic of amounts comes to in
  exact integers and rationals, and shows that it always comes
  to that: sums report the first partial sum above the supply,
  stopped operations move the exact result between zero and the
  supply, and ratios round the exact quotient.

  Key definitions include:
    * `Amount.IsFirstExcess`
    * `Amount.IsExactSum`
    * `Amount.stopped`
    * `Amount.IsStopped`
    * `Amount.IsScaled`
    * `Amount.IsOnWords`
    * `Amount.IsResult`

  Key theorems include:
    * `Amount.isExactSum_sum`
    * `Amount.isStopped`
    * `Amount.isScaled`
    * `Amount.IsResult.toNat_le`
    * `Amount.arithmetic_isExact`
-/

namespace Remit

namespace Amount

------------------------------------------------------------
-- Sums
------------------------------------------------------------

/- The first partial sum of amounts that exceeds the supply. -/
def IsFirstExcess (amounts : List Amount) (n : Nat) : Prop :=
  ∃ k ≤ amounts.length,
    n = total (amounts.take k) ∧ cap < n ∧
      ∀ j < k, total (amounts.take j) ≤ cap

/-
  A sum of amounts succeeds exactly if the exact sum is within
  the supply, and then it is that. Otherwise it tells the first
  partial sum that is not.
-/
structure IsExactSum
    (amounts : List Amount)
    (x : Except AmountError Amount) : Prop where
  exists_iff : (∃ a, x = .ok a) ↔ total amounts ≤ cap
  units_eq : ∀ a, x = .ok a → a.units = total amounts
  error_eq :
    ∀ e, x = .error e →
      ∃ n, e = .aboveMaximum n ∧ IsFirstExcess amounts n

/-
  Adding amounts one by one fails with the first partial sum
  that exceeds the supply. The induction is on the amounts for
  any start, which counts as part of every partial sum.
-/
private theorem foldlM_add_eq_error
    (amounts : List Amount)
    (start : Amount)
    {e : AmountError}
    (h : amounts.foldlM add start = .error e) :
    ∃ k ≤ amounts.length,
      e = .aboveMaximum (start.units + total (amounts.take k)) ∧
        cap < start.units + total (amounts.take k) ∧
          ∀ j < k, start.units + total (amounts.take j) ≤ cap := by
  induction amounts generalizing start with
  | nil => cases h
  | cons b amounts ih =>
      rw [List.foldlM_cons] at h
      cases hAdd : start.add b with
      | error e' =>
          rw [hAdd] at h
          cases h
          rcases add_eq_error hAdd with ⟨rfl, hAbove⟩
          refine ⟨1, Nat.le_add_left _ _, by simp, by simpa using hAbove, ?_⟩
          intro j hj
          rw [Nat.lt_one_iff.mp hj]
          exact start.units_le
      | ok c =>
          rw [hAdd] at h
          have hUnits := add_eq_ok_iff.mp hAdd
          rcases ih c h with ⟨k, hLength, hError, hAbove, hBefore⟩
          have hPartial :
              ∀ j, start.units + total ((b :: amounts).take (j + 1)) =
                c.units + total (amounts.take j) := by
            intro j
            rw [List.take_succ_cons, total_cons, ← hUnits]
            omega
          refine ⟨k + 1, Nat.succ_le_succ hLength, ?_, ?_, ?_⟩
          · rw [hPartial]
            exact hError
          · rw [hPartial]
            exact hAbove
          · intro j hj
            cases j with
            | zero => exact start.units_le
            | succ j =>
                rw [hPartial]
                exact hBefore j (Nat.lt_of_succ_lt_succ hj)

/- Amounts are summed up exactly. -/
theorem isExactSum_sum
    (amounts : List Amount) :
    IsExactSum amounts (sum amounts) where
  exists_iff := by
    constructor
    · rintro ⟨a, ha⟩
      rw [sum_eq_ok_iff.mp ha]
      exact a.units_le
    · intro hCap
      exact ⟨⟨_, hCap⟩, sum_eq_ok_iff.mpr rfl⟩
  units_eq := fun _ ha => (sum_eq_ok_iff.mp ha).symm
  error_eq := by
    intro e he
    rcases foldlM_add_eq_error amounts zero he with
      ⟨k, hLength, hError, hAbove, hBefore⟩
    simp only [units_zero, Nat.zero_add] at hError hAbove hBefore
    exact ⟨_, hError, k, hLength, rfl, hAbove, hBefore⟩

/- Adding two amounts is summing them up. -/
theorem sum_pair
    (a b : Amount) :
    sum [a, b] = a.add b := by
  have hFirst : zero.add a = .ok a :=
    add_eq_ok_iff.mpr (Nat.zero_add _)
  rw [sum, List.foldlM_cons, hFirst]
  change [b].foldlM add a = _
  rw [List.foldlM_cons]
  simp only [List.foldlM_nil, bind_pure]

/- Two amounts are added exactly. -/
theorem isExactSum_add
    (a b : Amount) :
    IsExactSum [a, b] (a.add b) :=
  sum_pair a b ▸ isExactSum_sum [a, b]

------------------------------------------------------------
-- Stopped Operations
------------------------------------------------------------

/- A number, moved between zero and the supply. -/
def stopped (x : ℤ) : ℤ :=
  max 0 (min x cap)

/-
  The operations that never fail come to the exact integers,
  moved between zero and the supply.
-/
structure IsStopped (a : Amount) (b : Amount) (factor : Nat) : Prop where
  add : ((a.addCapped b).units : ℤ) = stopped (a.units + b.units)
  sub : ((a.subFloored b).units : ℤ) = stopped (a.units - b.units)
  mul : ((a.mulCapped factor).units : ℤ) = stopped (a.units * factor)

/- They always do. -/
theorem isStopped
    (a b : Amount)
    (factor : Nat) :
    IsStopped a b factor where
  add := by
    rw [units_addCapped, stopped]
    omega
  sub := by
    have hCap := a.units_le
    rw [units_subFloored, stopped]
    omega
  mul := by
    rw [units_mulCapped, stopped, ← Nat.cast_mul]
    omega

------------------------------------------------------------
-- Ratios
------------------------------------------------------------

/- The exact multiple of a number by a ratio. -/
def Ratio.times (r : Ratio) (n : Nat) : ℚ :=
  n * r.numer / r.denom

/-
  Amounts are scaled to the exact quotient, rounded down or to
  the nearest count, a half upward.
-/
structure IsScaled (a : Amount) (r : Ratio) : Prop where
  floor : IsMadeOf ⌊r.times a.units⌋₊ (a.scaleFloor r)
  round : IsMadeOf ⌊r.times a.units + 1 / 2⌋₊ (a.scaleRound r)

variable {p d : Nat}

/- Half of a divisor may be rounded down before it is added. -/
theorem floor_div_add_half
    (hDivisor : d ≠ 0) :
    ⌊(p : ℚ) / d + 1 / 2⌋₊ = (p + d / 2) / d := by
  have hSum : (p : ℚ) / d + 1 / 2 = ((2 * p + d : Nat) : ℚ) / (2 * d : Nat) := by
    have hCast : (d : ℚ) ≠ 0 := Nat.cast_ne_zero.mpr hDivisor
    push_cast
    field_simp
  have hHalf : (2 * p + d) / 2 = p + d / 2 := by
    omega
  rw [hSum, Nat.floor_div_eq_div, ← Nat.div_div_eq_div_mul, hHalf]

/- Amounts are scaled exactly by any ratio that is a number. -/
theorem isScaled
    (a : Amount)
    {r : Ratio}
    (hDenom : r.denom ≠ 0) :
    IsScaled a r where
  floor := by
    have hFloor : ⌊r.times a.units⌋₊ = a.units * r.numer / r.denom := by
      rw [Ratio.times, ← Nat.cast_mul, Nat.floor_div_eq_div]
    rw [hFloor, scaleFloor, if_neg hDenom]
    exact isMadeOf_ofUnits _
  round := by
    rw [Ratio.times, ← Nat.cast_mul, floor_div_add_half hDenom,
      scaleRound, if_neg hDenom]
    exact isMadeOf_ofUnits _

------------------------------------------------------------
-- Words
------------------------------------------------------------

/-
  Words come to the same as counts: no step on the way wraps
  around or stops the machine.
-/
structure IsOnWords
    (a : Amount)
    (b : Amount)
    (amounts : List Amount)
    (factor : Word)
    (numer : Word)
    (denom : Word) : Prop where
  add : Machine.add a.word b.word = (a.add b).map word
  sum : Machine.sum (amounts.map word) = (Amount.sum amounts).map word
  addCapped :
    Machine.addCapped a.word b.word = (a.addCapped b).word
  subFloored :
    Machine.subStopped a.word b.word = (a.subFloored b).word
  mulCapped :
    Machine.mulCapped a.word factor = (a.mulCapped factor.toNat).word
  scaleFloor :
    Machine.scaleFloor a.word numer denom =
      some ((a.scaleFloor ⟨numer.toNat, denom.toNat⟩).map word)
  scaleRound :
    Machine.scaleRound a.word numer denom =
      some ((a.scaleRound ⟨numer.toNat, denom.toNat⟩).map word)

/- A word that comes out of the arithmetic of amounts. -/
inductive IsResult
    (a : Amount)
    (b : Amount)
    (amounts : List Amount)
    (factor : Word)
    (numer : Word)
    (denom : Word) : Word → Prop
| add {x : Word} (h : Machine.add a.word b.word = .ok x) :
    IsResult a b amounts factor numer denom x
| sum {x : Word} (h : Machine.sum (amounts.map word) = .ok x) :
    IsResult a b amounts factor numer denom x
| addCapped :
    IsResult a b amounts factor numer denom
      (Machine.addCapped a.word b.word)
| subFloored :
    IsResult a b amounts factor numer denom
      (Machine.subStopped a.word b.word)
| mulCapped :
    IsResult a b amounts factor numer denom
      (Machine.mulCapped a.word factor)
| scaleFloor {x : Word}
    (h : Machine.scaleFloor a.word numer denom = some (.ok x)) :
    IsResult a b amounts factor numer denom x
| scaleRound {x : Word}
    (h : Machine.scaleRound a.word numer denom = some (.ok x)) :
    IsResult a b amounts factor numer denom x

variable
  {a b : Amount} {amounts : List Amount} {factor numer denom : Word}

/- All arithmetic of amounts can be carried out on words. -/
theorem isOnWords :
    IsOnWords a b amounts factor numer denom where
  add := Machine.add_word a b
  sum := Machine.sum_word amounts
  addCapped := Machine.addCapped_word a b
  subFloored := Machine.subStopped_word a b
  mulCapped := Machine.mulCapped_word a factor
  scaleFloor := Machine.scaleFloor_word a numer denom
  scaleRound := Machine.scaleRound_word a numer denom

/- The word of an amount is within the supply. -/
private theorem toNat_le_of_map_word
    {x : Except AmountError Amount}
    {w : Word}
    (h : x.map word = .ok w) :
    w.toNat ≤ cap := by
  cases x with
  | error e => cases h
  | ok c =>
      cases h
      rw [toNat_word]
      exact c.units_le

/- Every word that comes out is within the supply. -/
theorem IsResult.toNat_le
    {x : Word}
    (h : IsResult a b amounts factor numer denom x) :
    x.toNat ≤ cap := by
  cases h with
  | add h =>
      rw [Machine.add_word] at h
      exact toNat_le_of_map_word h
  | sum h =>
      rw [Machine.sum_word] at h
      exact toNat_le_of_map_word h
  | addCapped =>
      rw [Machine.addCapped_word, toNat_word]
      exact (a.addCapped b).units_le
  | subFloored =>
      rw [Machine.subStopped_word, toNat_word]
      exact (a.subFloored b).units_le
  | mulCapped =>
      rw [Machine.mulCapped_word, toNat_word]
      exact (a.mulCapped factor.toNat).units_le
  | scaleFloor h =>
      rw [Machine.scaleFloor_word] at h
      exact toNat_le_of_map_word (Option.some.inj h)
  | scaleRound h =>
      rw [Machine.scaleRound_word] at h
      exact toNat_le_of_map_word (Option.some.inj h)

------------------------------------------------------------
-- All Arithmetic
------------------------------------------------------------

/-
  Whatever the amounts, and whatever words the factor and the
  parts of the ratio are, the arithmetic on words comes to what
  it comes to on counts, within the supply, and that is exact.
-/
theorem arithmetic_isExact
    (a b : Amount)
    (amounts : List Amount)
    (factor numer denom : Word) :
    IsOnWords a b amounts factor numer denom ∧
      (∀ x, IsResult a b amounts factor numer denom x →
        x.toNat ≤ cap) ∧
      IsExactSum [a, b] (a.add b) ∧
      IsExactSum amounts (sum amounts) ∧
      IsStopped a b factor.toNat ∧
      (denom ≠ 0 → IsScaled a ⟨numer.toNat, denom.toNat⟩) := by
  refine
    ⟨isOnWords, fun _ => IsResult.toNat_le, isExactSum_add a b,
      isExactSum_sum amounts, isStopped a b factor.toNat, ?_⟩
  intro hDenom
  apply isScaled
  intro hZero
  exact hDenom (BitVec.eq_of_toNat_eq hZero)

/-
  One unit more than the supply is told before the sum is
  complete, and a third of the supply is rounded upward.
-/
theorem arithmetic_isExact_brim :
    (3 : Word) ≠ 0 ∧
      IsExactSum [supply, ⟨1, by decide⟩, supply]
        (.error (.aboveMaximum (cap + 1))) ∧
      IsScaled supply ⟨1, 3⟩ ∧
      supply.scaleRound ⟨1, 3⟩ = .ok ⟨6666666666666667, by decide⟩ := by
  have hDenom : (3 : Word) ≠ 0 := by decide
  rcases arithmetic_isExact supply supply
      [supply, ⟨1, by decide⟩, supply] 0 1 3 with
    ⟨_, _, _, hSum, _, hScaled⟩
  have hEarly :
      sum [supply, ⟨1, by decide⟩, supply] =
        .error (.aboveMaximum (cap + 1)) := by
    decide
  exact ⟨hDenom, hEarly ▸ hSum, hScaled hDenom, by decide⟩

end Amount

end Remit
