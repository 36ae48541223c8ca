import Mathlib.Algebra.Order.BigOperators.Group.List
import Mathlib.Algebra.Order.Group.Nat
import Mathlib.Algebra.Ring.Nat
import Remit.Amount.Basic
import Remit.Proofs.Text.Digits

/-
  This file compares sums of amounts with the exact sums of
  their units. A sum that reports an excess over the supply
  succeeds exactly when the exact sum is within it, and a sum
  that stops at the supply is the lesser of the two.

  Key definitions include:
    * `Amount.total`
    * `Amount.IsMadeOf`

  Key theorems include:
    * `Amount.isMadeOf_ofUnits`
    * `Amount.add_eq_ok_iff`
    * `Amount.sum_eq_ok_iff`
    * `Amount.units_sumCapped`
-/

namespace Remit

namespace Amount

/- The exact sum of the units of amounts. -/
def total (amounts : List Amount) : Nat :=
  (amounts.map units).sum

@[simp]
theorem total_nil :
    total [] = 0 :=
  rfl

@[simp]
theorem total_cons
    (a : Amount)
    (amounts : List Amount) :
    total (a :: amounts) = a.units + total amounts := by
  simp [total]

/- The exact sum does not depend on the order. -/
theorem total_perm
    {as bs : List Amount}
    (h : as.Perm bs) :
    total as = total bs :=
  (h.map units).sum_eq

/- Amounts that are left out do not add to the exact sum. -/
theorem total_le_of_sublist
    {as bs : List Amount}
    (h : as.Sublist bs) :
    total as ≤ total bs :=
  (h.map units).sum_le_sum (fun _ _ => Nat.zero_le _)

/- Amounts are ordered by their units. -/
theorem le_iff
    {a b : Amount} :
    a ≤ b ↔ a.units ≤ b.units :=
  Iff.rfl

/- One amount is below another when it has fewer units. -/
theorem lt_iff
    {a b : Amount} :
    a < b ↔ a.units < b.units :=
  Iff.rfl

/- A count makes exactly the amount that has so many units. -/
theorem ofUnits_eq_ok_iff
    {n : Nat}
    {a : Amount} :
    ofUnits n = .ok a ↔ n = a.units := by
  constructor
  · intro h
    exact (units_of_ofUnits h).symm
  · intro h
    subst h
    exact ofUnits_of_le a.units_le

/-
  What an exact count comes to: the amount of so many units, or
  an excess over the supply, or an overflow if no 64-bit word
  holds the count.
-/
inductive IsMadeOf (n : Nat) : Except AmountError Amount → Prop
| amount (hCap : n ≤ cap) : IsMadeOf n (.ok ⟨n, hCap⟩)
| excess
    (hCap : cap < n)
    (hWord : n < 2 ^ 64) :
    IsMadeOf n (.error (.aboveMaximum n))
| overflow (hWord : 2 ^ 64 ≤ n) : IsMadeOf n (.error .overflow)

/- Any count comes to what it should. -/
theorem isMadeOf_ofUnits
    (n : Nat) :
    IsMadeOf n (ofUnits n) := by
  unfold ofUnits
  split
  · rename_i hOver
    exact .overflow (Numeral.wordMax_lt_iff.mp hOver)
  · rename_i hFits
    rw [Numeral.wordMax_lt_iff] at hFits
    split
    · rename_i hCap
      exact .amount hCap
    · rename_i hAbove
      exact .excess (Nat.lt_of_not_le hAbove) (Nat.lt_of_not_le hFits)

/- An addition succeeds exactly with the exact sum. -/
theorem add_eq_ok_iff
    {a b c : Amount} :
    a.add b = .ok c ↔ a.units + b.units = c.units :=
  ofUnits_eq_ok_iff

/- An addition fails only above the supply: it never overflows. -/
theorem add_eq_error
    {a b : Amount}
    {e : AmountError}
    (h : a.add b = .error e) :
    e = .aboveMaximum (a.units + b.units) ∧
      cap < a.units + b.units := by
  have hMade := isMadeOf_ofUnits (a.units + b.units)
  rw [← add, h] at hMade
  cases hMade with
  | excess hCap => exact ⟨rfl, hCap⟩
  | overflow hWord =>
      have hTwice : a.units + b.units ≤ cap + cap :=
        Nat.add_le_add a.units_le b.units_le
      have hFits : cap + cap < 2 ^ 64 := by decide
      omega

/-
  Adding amounts one by one succeeds exactly with the exact sum.
  The induction is on the amounts for any start: no sum on the
  way exceeds the last one.
-/
private theorem foldlM_add_eq_ok_iff
    (amounts : List Amount)
    (start : Amount)
    {a : Amount} :
    amounts.foldlM add start = .ok a ↔
      start.units + total amounts = a.units := by
  induction amounts generalizing start with
  | nil =>
      simp only [List.foldlM_nil, pure, Except.pure,
        Except.ok.injEq, total_nil, Nat.add_zero]
      exact ⟨congrArg units, ext⟩
  | cons b amounts ih =>
      rw [List.foldlM_cons, total_cons, ← Nat.add_assoc]
      cases hAdd : start.add b with
      | ok c =>
          have hUnits : start.units + b.units = c.units :=
            add_eq_ok_iff.mp hAdd
          rw [hUnits]
          exact ih c
      | error e =>
          have hExcess := (add_eq_error hAdd).2
          have hCap := a.units_le
          simp only [bind, Except.bind, reduceCtorEq, false_iff]
          omega

/- A sum succeeds exactly with the exact sum. -/
theorem sum_eq_ok_iff
    {amounts : List Amount}
    {a : Amount} :
    sum amounts = .ok a ↔ total amounts = a.units := by
  have h := foldlM_add_eq_ok_iff amounts zero (a := a)
  rwa [units_zero, Nat.zero_add] at h

/- Stopped sums from any start are exact sums, stopped once. -/
private theorem units_foldl_addCapped
    (amounts : List Amount)
    (start : Amount) :
    (amounts.foldl addCapped start).units =
      min (start.units + total amounts) cap := by
  induction amounts generalizing start with
  | nil =>
      have hCap := start.units_le
      simp only [List.foldl_nil, total_nil]
      omega
  | cons b amounts ih =>
      rw [List.foldl_cons, ih, units_addCapped, total_cons]
      omega

/- A stopped sum is the exact sum, or the supply if that is less. -/
@[simp]
theorem units_sumCapped
    (amounts : List Amount) :
    (sumCapped amounts).units = min (total amounts) cap := by
  have h := units_foldl_addCapped amounts zero
  rwa [units_zero, Nat.zero_add] at h

end Amount

end Remit
