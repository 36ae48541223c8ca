import Remit.Composition.Outcome
import Remit.Proofs.Amount.Sum

/-
  This file compares the totals of a payment with the exact sum
  of the valid rows and the fee: they are that sum as long as it
  is within the supply, and stop at the supply otherwise.

  Key definitions include:
    * `Inputs.exactOut`

  Key theorems include:
    * `Inputs.totals_overflow_iff`
    * `Inputs.units_totals_out`
    * `Inputs.units_totals_amount`
    * `Inputs.shortfall?_eq_none_iff`
-/

namespace Remit

namespace Inputs

variable (i : Inputs)

/- The exact sum of the amounts of the valid rows and of the fee. -/
def exactOut : Nat :=
  Amount.total i.validAmounts + i.fee.selected.units

/- Totals within the supply are exact. -/
private theorem totals_of_le
    (h : i.exactOut ≤ Amount.cap) :
    ∃ amount out,
      i.totals = ⟨amount, out, false⟩ ∧
        amount.units = Amount.total i.validAmounts ∧
        out.units = i.exactOut := by
  have hAmount : Amount.total i.validAmounts ≤ Amount.cap :=
    Nat.le_trans (Nat.le_add_right _ _) h
  have hSum :
      Amount.sum i.validAmounts = .ok ⟨_, hAmount⟩ :=
    Amount.sum_eq_ok_iff.mpr rfl
  have hAdd :
      Amount.add ⟨_, hAmount⟩ i.fee.selected = .ok ⟨_, h⟩ :=
    Amount.add_eq_ok_iff.mpr rfl
  refine ⟨⟨_, hAmount⟩, ⟨_, h⟩, ?_, rfl, rfl⟩
  unfold totals exactTotals
  simp [hSum, hAdd, bind, Except.bind, pure, Except.pure]

/- Totals beyond the supply are stopped at it. -/
private theorem totals_of_lt
    (h : Amount.cap < i.exactOut) :
    i.totals =
      ⟨Amount.sumCapped i.validAmounts, .supply, true⟩ := by
  unfold totals
  cases hTotals : i.exactTotals with
  | error e => rfl
  | ok t =>
      unfold exactTotals at hTotals
      cases hSum : Amount.sum i.validAmounts with
      | error e => simp [hSum, bind, Except.bind] at hTotals
      | ok amount =>
          cases hAdd : amount.add i.fee.selected with
          | error e =>
              simp [hSum, hAdd, bind, Except.bind] at hTotals
          | ok out =>
              have hAmount := Amount.sum_eq_ok_iff.mp hSum
              have hOut := Amount.add_eq_ok_iff.mp hAdd
              have hCap := out.units_le
              unfold exactOut at h
              omega

/- The totals overflow exactly when the exact sum does. -/
theorem totals_overflow_iff :
    i.totals.overflow = true ↔ Amount.cap < i.exactOut := by
  by_cases h : i.exactOut ≤ Amount.cap
  · rcases totals_of_le i h with ⟨amount, out, hTotals, _⟩
    rw [hTotals]
    simp [h]
  · have hLt : Amount.cap < i.exactOut := by omega
    rw [totals_of_lt i hLt]
    exact iff_of_true rfl hLt

/- The total to be paid is the exact sum, or the supply if less. -/
theorem units_totals_out :
    i.totals.out.units = min i.exactOut Amount.cap := by
  by_cases h : i.exactOut ≤ Amount.cap
  · rcases totals_of_le i h with ⟨amount, out, hTotals, _, hOut⟩
    rw [hTotals, hOut]
    omega
  · have hLt : Amount.cap < i.exactOut := by omega
    rw [totals_of_lt i hLt]
    change Amount.cap = _
    omega

/- The total of the amounts is exact, or the supply if less. -/
theorem units_totals_amount :
    i.totals.amount.units =
      min (Amount.total i.validAmounts) Amount.cap := by
  by_cases h : i.exactOut ≤ Amount.cap
  · rcases totals_of_le i h with ⟨amount, out, hTotals, hAmount, _⟩
    have hCap := amount.units_le
    rw [hTotals]
    change amount.units = _
    omega
  · have hLt : Amount.cap < i.exactOut := by omega
    rw [totals_of_lt i hLt]
    exact Amount.units_sumCapped _

/-
  Nothing falls short exactly when there is no valid row, or the
  total is within what can be spent.
-/
theorem shortfall?_eq_none_iff :
    i.shortfall? = none ↔
      i.validAmounts = [] ∨
        min i.exactOut Amount.cap ≤ i.balance.spendable.units := by
  rw [← units_totals_out]
  unfold shortfall?
  split
  · rename_i h
    simp only [reduceCtorEq, false_iff, not_or, Nat.not_le]
    exact ⟨h.1, Amount.lt_iff.mp h.2⟩
  · rename_i h
    simp only [true_iff]
    by_cases hEmpty : i.validAmounts = []
    · exact Or.inl hEmpty
    · exact Or.inr
        (Nat.not_lt.mp (fun hLt => h ⟨hEmpty, Amount.lt_iff.mpr hLt⟩))

end Inputs

end Remit
