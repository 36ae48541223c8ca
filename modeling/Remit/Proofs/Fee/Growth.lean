import Remit.Proofs.Fee.Bounds

/-
  This file shows that a payment with more outputs never pays a
  smaller fee: its least and its usual fee are no smaller, and
  so is what a preset makes of the usual fee.

  Key theorems include:
    * `FeePolicy.units_withExtra`
    * `FeePolicy.leastFee_mono`
    * `FeePolicy.usualFee_mono`
    * `FeePolicy.units_rawFee`
    * `FeeSelection.selected_mono`
-/

namespace Remit

/- A count that is no amount stands for the supply. -/
theorem Amount.units_ofUnits_or_supply
    (n : Nat) :
    (match ofUnits n with
      | .ok a => a
      | .error _ => supply).units =
      min n cap := by
  by_cases h : n ≤ cap
  · rw [ofUnits_of_le h]
    exact (Nat.min_eq_left h).symm
  · have hCap : min n cap = cap :=
      Nat.min_eq_right (Nat.le_of_not_le h)
    cases hUnits : ofUnits n with
    | ok a =>
        rw [ofUnits_eq_ok_iff.mp hUnits] at h
        exact absurd a.units_le h
    | error e =>
        rw [hCap]
        rfl

namespace FeePolicy

variable (p : FeePolicy)
variable {few many : Nat}

/-
  What the outputs after the first add to a fee is exact below
  any most: a sum that is stopped at the supply is above it.
-/
theorem units_withExtra
    (outputs : Nat)
    (fee most : Amount) :
    (Amount.least (fee.addCapped (p.extra outputs)) most).units =
      min (fee.units + (outputs - 1) * p.surcharge.units)
        most.units := by
  have hMost := most.units_le
  rw [Amount.units_least, Amount.units_addCapped, extra,
    Amount.units_mulCapped, Nat.mul_comm p.surcharge.units]
  omega

/- With what more outputs add, a fee is no smaller. -/
theorem withExtra_mono
    (h : few ≤ many)
    (fee most : Amount) :
    Amount.least (fee.addCapped (p.extra few)) most ≤
      Amount.least (fee.addCapped (p.extra many)) most := by
  have hTimes :
      (few - 1) * p.surcharge.units ≤ (many - 1) * p.surcharge.units :=
    Nat.mul_le_mul_right _ (Nat.sub_le_sub_right h 1)
  rw [Amount.le_iff, units_withExtra, units_withExtra]
  omega

/- The least fee of more outputs is no smaller. -/
theorem leastFee_mono
    (h : few ≤ many) :
    p.leastFee few ≤ p.leastFee many :=
  p.withExtra_mono h _ _

/- The usual fee of more outputs is no smaller. -/
theorem usualFee_mono
    (h : few ≤ many) :
    p.usualFee few ≤ p.usualFee many :=
  p.withExtra_mono h _ _

/- The share of no preset is a division by zero. -/
theorem denom_ratio_pos
    (preset : FeePreset) :
    0 < preset.ratio.denom := by
  cases preset <;> decide

/-
  Any preset but a custom fee pays its share of the usual fee,
  rounded to the nearest and a half upward, or the supply if
  that is less.
-/
theorem units_rawFee
    {preset : FeePreset}
    (hPreset : preset ≠ .custom)
    (usual : Amount)
    (entered : Option Amount) :
    (rawFee preset usual entered).units =
      min
        ((usual.units * preset.ratio.numer + preset.ratio.denom / 2) /
          preset.ratio.denom)
        Amount.cap := by
  have hDenom : preset.ratio.denom ≠ 0 :=
    Nat.pos_iff_ne_zero.mp (denom_ratio_pos preset)
  have hScale :
      rawFee preset usual entered =
        match usual.scaleRound preset.ratio with
        | .ok fee => fee
        | .error _ => .supply := by
    cases preset with
    | custom => exact absurd rfl hPreset
    | low => rfl
    | standard => rfl
    | high => rfl
  rw [hScale, Amount.scaleRound, if_neg hDenom]
  exact Amount.units_ofUnits_or_supply _

/- No preset pays less for a greater usual fee. -/
theorem rawFee_mono
    (preset : FeePreset)
    (entered : Option Amount)
    {low high : Amount}
    (h : low ≤ high) :
    rawFee preset low entered ≤ rawFee preset high entered := by
  rw [Amount.le_iff] at h ⊢
  by_cases hPreset : preset = .custom
  · subst hPreset
    cases entered with
    | none => exact h
    | some fee => exact Nat.le_refl _
  · have hShare :
        (low.units * preset.ratio.numer + preset.ratio.denom / 2) /
            preset.ratio.denom ≤
          (high.units * preset.ratio.numer + preset.ratio.denom / 2) /
            preset.ratio.denom :=
      Nat.div_le_div_right
        (Nat.add_le_add_right (Nat.mul_le_mul_right _ h) _)
    rw [units_rawFee hPreset, units_rawFee hPreset]
    omega

/- No greater fee is clamped to a smaller one for more outputs. -/
theorem clamp_mono
    {low high : Amount}
    (h : few ≤ many)
    (hFee : low ≤ high) :
    p.clamp few low ≤ p.clamp many high := by
  have hLeast := Amount.le_iff.mp (p.leastFee_mono h)
  rw [Amount.le_iff] at hFee
  rw [Amount.le_iff, clamp, clamp, Amount.units_least,
    Amount.units_least, Amount.units_greatest,
    Amount.units_greatest]
  omega

end FeePolicy

/- The fee that is selected for more outputs is no smaller. -/
theorem FeeSelection.selected_mono
    (p : FeePolicy)
    (preset : FeePreset)
    (entered : Option Amount)
    {few many : Nat}
    (h : few ≤ many) :
    (ofPolicy p preset entered few).selected ≤
      (ofPolicy p preset entered many).selected := by
  apply p.clamp_mono h
  apply FeePolicy.rawFee_mono
  exact p.usualFee_mono h

end Remit
