import Mathlib.Algebra.Order.Floor.Semifield
import Mathlib.Data.Rat.Floor
import Mathlib.Tactic.Ring
import Remit.Proofs.Fee.Growth

/-
  This file states the formulas of fees in exact numbers and
  shows that every fee is selected as they say: sums and shares
  that are stopped at the supply come to the same, since no fee
  is above the most, and that is within the supply.

  Key definitions include:
    * `FeePreset.share`
    * `FeeSelection.IsExact`
    * `FeeSelection.IsInOrder`

  Key theorems include:
    * `FeePolicy.units_rawFee_eq_share`
    * `FeeSelection.isExact_ofPolicy`
    * `FeeSelection.ofPolicy_exact_inOrder`
-/

namespace Remit

------------------------------------------------------------
-- Shares
------------------------------------------------------------

namespace FeePreset

/-
  What a preset makes of the usual fee: half of it, with a half
  rounded up, the usual fee, twice the usual fee, or a fee that
  was entered instead.
-/
def share
    (usual : Nat)
    (entered : Option Amount) : FeePreset → Nat
| low => ⌊(usual : ℚ) / 2 + 1 / 2⌋₊
| standard => usual
| high => 2 * usual
| custom => (entered.map Amount.units).getD usual

variable (usual : Nat) (entered : Option Amount)

/- Half of a number, with a half rounded up. -/
theorem share_low :
    low.share usual entered = (usual + 1) / 2 := by
  have hSum : (usual : ℚ) / 2 + 1 / 2 = ((usual + 1 : Nat) : ℚ) / 2 := by
    push_cast
    ring
  change ⌊(usual : ℚ) / 2 + 1 / 2⌋₊ = _
  rw [hSum]
  exact Nat.floor_div_eq_div (usual + 1) 2

/- Half of a number is no more than the number, even rounded up. -/
theorem share_low_le_standard :
    low.share usual entered ≤ standard.share usual entered := by
  rw [share_low]
  change _ ≤ usual
  omega

/- Twice a number is no less than the number. -/
theorem share_standard_le_high :
    standard.share usual entered ≤ high.share usual entered := by
  change usual ≤ 2 * usual
  omega

end FeePreset

------------------------------------------------------------
-- Policies
------------------------------------------------------------

namespace FeePolicy

variable (p : FeePolicy)
variable (outputs : Nat)

/- What a preset pays is its share, or the supply if less. -/
theorem units_rawFee_eq_share
    (preset : FeePreset)
    (usual : Amount)
    (entered : Option Amount) :
    (rawFee preset usual entered).units =
      min (preset.share usual.units entered) Amount.cap := by
  have hUsual := usual.units_le
  cases preset with
  | low =>
      rw [units_rawFee (by decide), FeePreset.share_low]
      change min ((usual.units * 1 + 1) / 2) _ = _
      rw [Nat.mul_one]
  | standard =>
      rw [units_rawFee (by decide)]
      change min ((usual.units * 1 + 0) / 1) _ = min usual.units _
      omega
  | high =>
      rw [units_rawFee (by decide)]
      change min ((usual.units * 2 + 0) / 1) _ = min (2 * usual.units) _
      omega
  | custom =>
      cases entered with
      | none => exact (Nat.min_eq_left hUsual).symm
      | some fee => exact (Nat.min_eq_left fee.units_le).symm

/- A clamped share is moved between the least and the most exactly. -/
theorem units_clamp_rawFee
    (preset : FeePreset)
    (usual : Amount)
    (entered : Option Amount) :
    (p.clamp outputs (rawFee preset usual entered)).units =
      min
        (max (preset.share usual.units entered)
          (p.leastFee outputs).units)
        p.mostFee.units := by
  have hMost := p.mostFee.units_le
  rw [clamp, Amount.units_least, Amount.units_greatest,
    units_rawFee_eq_share]
  omega

/- With bounds in order the least fee is no more than the usual. -/
theorem leastFee_le_usualFee
    (h : p.bounds.least ≤ p.bounds.usual) :
    p.leastFee outputs ≤ p.usualFee outputs := by
  rw [Amount.le_iff] at h
  rw [Amount.le_iff, leastFee, usualFee, units_withExtra,
    units_withExtra]
  omega

/- A greater share is not clamped to a smaller fee. -/
theorem clamp_rawFee_le
    {usual : Amount}
    {entered : Option Amount}
    {lower higher : FeePreset}
    (h :
      lower.share usual.units entered ≤
        higher.share usual.units entered) :
    p.clamp outputs (rawFee lower usual entered) ≤
      p.clamp outputs (rawFee higher usual entered) := by
  rw [Amount.le_iff, units_clamp_rawFee, units_clamp_rawFee]
  omega

end FeePolicy

/- The least of bounds that are put in order is no more than the usual. -/
theorem FeeBounds.least_le_usual_ordered
    (b : FeeBounds) :
    b.ordered.least ≤ b.ordered.usual := by
  rw [Amount.le_iff]
  change b.least.units ≤ (Amount.least _ _).units
  rw [Amount.units_least, Amount.units_greatest,
    Amount.units_greatest]
  omega

------------------------------------------------------------
-- Selections
------------------------------------------------------------

namespace FeeSelection

/-
  A selection is exact for bounds in any order. The most is
  raised to the least; the least and the usual fee, moved
  between these two, grow by the surcharge for every output
  after the first, up to the most; and the share of the preset
  is moved between the least and the most. All numbers are
  exact, and nothing but the most stops them.
-/
structure IsExact
    (b : FeeBounds)
    (surcharge : Amount)
    (preset : FeePreset)
    (entered : Option Amount)
    (outputs : Nat)
    (s : FeeSelection) : Prop where
  preset_eq : s.preset = preset
  entered_eq : s.entered = entered
  most : s.most.units = max b.most.units b.least.units
  least :
    s.least.units =
      min (b.least.units + (outputs - 1) * surcharge.units)
        s.most.units
  usual :
    s.usual.units =
      min
        (min (max b.usual.units b.least.units) s.most.units +
          (outputs - 1) * surcharge.units)
        s.most.units
  selected :
    s.selected.units =
      min (max (preset.share s.usual.units entered) s.least.units)
        s.most.units

/- The usual and the selected fee are between the least and the most. -/
structure IsInOrder (s : FeeSelection) : Prop where
  least_le_usual : s.least ≤ s.usual
  usual_le_most : s.usual ≤ s.most
  least_le_selected : s.least ≤ s.selected
  selected_le_most : s.selected ≤ s.most

variable (b : FeeBounds)
variable (surcharge : Amount)
variable (preset : FeePreset)
variable (entered : Option Amount)
variable (outputs : Nat)

/- Fees are selected as the formulas say. -/
theorem isExact_ofPolicy :
    IsExact b surcharge preset entered outputs
      (ofPolicy (FeePolicy.ofBounds b surcharge) preset entered
        outputs) where
  preset_eq := rfl
  entered_eq := rfl
  most := Amount.units_greatest _ _
  least := FeePolicy.units_withExtra _ _ _ _
  usual := by
    change (FeePolicy.usualFee _ _).units = _
    rw [FeePolicy.usualFee, FeePolicy.units_withExtra]
    change
      min ((Amount.least (Amount.greatest b.usual b.least) _).units + _)
        _ = _
    rw [Amount.units_least, Amount.units_greatest]
    rfl
  selected := FeePolicy.units_clamp_rawFee _ _ _ _ _

/- Bounds in any order select fees in order. -/
theorem isInOrder_ofPolicy :
    IsInOrder
      (ofPolicy (FeePolicy.ofBounds b surcharge) preset entered
        outputs) where
  least_le_usual :=
    FeePolicy.leastFee_le_usualFee _ _ b.least_le_usual_ordered
  usual_le_most := FeePolicy.usualFee_le_mostFee _ _
  least_le_selected := FeePolicy.leastFee_le_clamp _ _ _
  selected_le_most := FeePolicy.clamp_le_mostFee _ _ _

/-
  Fees are selected as the formulas say, whatever the bounds.
  The usual and the selected fee are between the least and the
  most; the low preset pays no more than the standard one, and
  that no more than the high one; and for more outputs no preset
  pays less.
-/
theorem ofPolicy_exact_inOrder
    (b : FeeBounds)
    (surcharge : Amount)
    (entered : Option Amount) :
    let select := ofPolicy (FeePolicy.ofBounds b surcharge)
    (∀ preset outputs,
        IsExact b surcharge preset entered outputs
            (select preset entered outputs) ∧
          IsInOrder (select preset entered outputs)) ∧
      (∀ outputs,
        (select .low entered outputs).selected ≤
            (select .standard entered outputs).selected ∧
          (select .standard entered outputs).selected ≤
            (select .high entered outputs).selected) ∧
      ∀ preset few many,
        few ≤ many →
          (select preset entered few).selected ≤
            (select preset entered many).selected := by
  intro select
  refine ⟨?_, ?_, ?_⟩
  · intro preset outputs
    exact
      ⟨isExact_ofPolicy b surcharge preset entered outputs,
        isInOrder_ofPolicy b surcharge preset entered outputs⟩
  · intro outputs
    constructor
    · apply FeePolicy.clamp_rawFee_le
      exact FeePreset.share_low_le_standard _ _
    · apply FeePolicy.clamp_rawFee_le
      exact FeePreset.share_standard_le_high _ _
  · intro preset few many h
    exact selected_mono _ preset entered h

/- Bounds with the usual fee below the least, and a low most. -/
def skewBounds : FeeBounds where
  least := Amount.capped 10001
  usual := Amount.capped 5
  most := Amount.capped 45000

/-
  For one output the high preset doubles the least fee, which
  is the usual one; for four outputs it is stopped at the most.
-/
theorem ofPolicy_exact_inOrder_skew :
    ∃ one four : FeeSelection,
      IsExact skewBounds (Amount.capped 10000) .high none 1 one ∧
        IsExact skewBounds (Amount.capped 10000) .high none 4 four ∧
        one.selected.units = 20002 ∧
        four.selected.units = 45000 ∧
        1 ≤ 4 ∧ one.selected ≤ four.selected := by
  rcases ofPolicy_exact_inOrder skewBounds (Amount.capped 10000) none with
    ⟨hExact, _, hMore⟩
  exact
    ⟨_, _, (hExact .high 1).1, (hExact .high 4).1, by decide +kernel,
      by decide +kernel, by decide, hMore .high 1 4 (by decide)⟩

end FeeSelection

end Remit
