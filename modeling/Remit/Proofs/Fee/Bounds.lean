import Remit.Fee
import Remit.Proofs.Amount.Sum

/-
  This file shows that every fee is selected within the bounds
  that hold for as many outputs as there are, and that only a fee
  outside of them is moved.

  Key theorems include:
    * `FeePolicy.leastFee_le_mostFee`
    * `FeePolicy.usualFee_le_mostFee`
    * `FeePolicy.leastFee_le_clamp`
    * `FeePolicy.clamp_le_mostFee`
    * `FeePolicy.clamp_ne_iff`
-/

namespace Remit

namespace FeePolicy

variable (p : FeePolicy)
variable (outputs : Nat)

/- The least fee is stopped at the most. -/
theorem leastFee_le_mostFee :
    p.leastFee outputs ≤ p.mostFee := by
  rw [Amount.le_iff, leastFee, Amount.units_least]
  exact Nat.min_le_right _ _

/- The usual fee is stopped at the most. -/
theorem usualFee_le_mostFee :
    p.usualFee outputs ≤ p.mostFee := by
  rw [Amount.le_iff, usualFee, Amount.units_least]
  exact Nat.min_le_right _ _

/- A clamped fee is no less than the least. -/
theorem leastFee_le_clamp
    (fee : Amount) :
    p.leastFee outputs ≤ p.clamp outputs fee := by
  have hLeast := leastFee_le_mostFee p outputs
  rw [Amount.le_iff] at hLeast
  rw [Amount.le_iff, clamp, Amount.units_least,
    Amount.units_greatest]
  exact Nat.le_min.mpr ⟨Nat.le_max_right _ _, hLeast⟩

/- A clamped fee is no more than the most. -/
theorem clamp_le_mostFee
    (fee : Amount) :
    p.clamp outputs fee ≤ p.mostFee := by
  rw [Amount.le_iff, clamp, Amount.units_least]
  exact Nat.min_le_right _ _

/- A fee below the least is raised to the least. -/
theorem clamp_of_lt_leastFee
    {fee : Amount}
    (h : fee < p.leastFee outputs) :
    p.clamp outputs fee = p.leastFee outputs := by
  have hLeast := leastFee_le_mostFee p outputs
  rw [Amount.le_iff] at hLeast
  rw [Amount.lt_iff] at h
  apply Amount.ext
  rw [clamp, Amount.units_least, Amount.units_greatest]
  omega

/- A fee above the most is lowered to the most. -/
theorem clamp_of_mostFee_lt
    {fee : Amount}
    (h : p.mostFee < fee) :
    p.clamp outputs fee = p.mostFee := by
  rw [Amount.lt_iff] at h
  apply Amount.ext
  rw [clamp, Amount.units_least, Amount.units_greatest]
  omega

/- A fee is moved exactly if it lies outside the bounds. -/
theorem clamp_ne_iff
    {fee : Amount} :
    p.clamp outputs fee ≠ fee ↔
      fee < p.leastFee outputs ∨ p.mostFee < fee := by
  have hLeast := leastFee_le_mostFee p outputs
  have hUnits :
      p.clamp outputs fee = fee ↔
        (p.clamp outputs fee).units = fee.units :=
    ⟨fun h => by rw [h], Amount.ext⟩
  rw [ne_eq, hUnits, clamp, Amount.units_least, Amount.units_greatest]
  rw [Amount.le_iff] at hLeast
  rw [Amount.lt_iff, Amount.lt_iff]
  omega

end FeePolicy

end Remit
