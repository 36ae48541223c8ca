import Remit.Amount.Basic
import Remit.Text.Blank
import Remit.Text.Search

/-
  This file defines fees: the bounds a network sets, the
  surcharge for every output after the first, the presets, and
  the fee selected for a payment.

  Key definitions include:
    * `FeeBounds`
    * `FeePreset`
    * `FeePolicy`
    * `FeePolicy.clamp`
    * `FeeSelection`
    * `FeeSelection.ofPolicy`
-/

namespace Remit

------------------------------------------------------------
-- Bounds
------------------------------------------------------------

/- The fees of a payment with a single output. -/
structure FeeBounds where
  least : Amount
  usual : Amount
  most : Amount
deriving DecidableEq, Repr

namespace FeeBounds

/- The bounds that hold until others are known. -/
def fallback : FeeBounds where
  least := Amount.capped 10000
  usual := Amount.capped 10000
  most := Amount.capped 1000000

/- The bounds in order: the most raised, the usual moved within. -/
def ordered (b : FeeBounds) : FeeBounds :=
  let most := Amount.greatest b.most b.least
  { least := b.least
    usual := Amount.least (Amount.greatest b.usual b.least) most
    most := most }

end FeeBounds

------------------------------------------------------------
-- Presets
------------------------------------------------------------

/- How a fee is chosen. -/
inductive FeePreset where
| low
| standard
| high
| custom
deriving DecidableEq, Repr

namespace FeePreset

/- Every preset. -/
def all : List FeePreset :=
  [low, standard, high, custom]

/- The name of a preset. -/
def name : FeePreset → String
| low => "low"
| standard => "standard"
| high => "high"
| custom => "custom"

/- The share of the usual fee that a preset pays. -/
def ratio : FeePreset → Amount.Ratio
| low => .half
| standard => .one
| high => .double
| custom => .one

/-
  The preset that a text names, blanks and letter case aside.
  A text that names none is given back as it was understood.
-/
def ofText (s : String) : Except String FeePreset :=
  match Text.lower (Text.trim s) with
  | "low" => .ok low
  | "standard" => .ok standard
  | "normal" => .ok standard
  | "high" => .ok high
  | "custom" => .ok custom
  | other => .error other

/- The wording for a text that names no preset. -/
def unknownMessage (s : String) : String :=
  s!"unknown fee preset '{s}'"

end FeePreset

------------------------------------------------------------
-- Policies
------------------------------------------------------------

/- Ordered bounds, and what each output after the first adds. -/
structure FeePolicy where
  bounds : FeeBounds
  surcharge : Amount
deriving DecidableEq, Repr

namespace FeePolicy

/- The surcharge that holds unless it is configured. -/
def usualSurcharge : Amount :=
  Amount.capped 10000

/- The policy of bounds in any order. -/
def ofBounds (b : FeeBounds) (surcharge : Amount) : FeePolicy where
  bounds := b.ordered
  surcharge := surcharge

/- What the outputs after the first add. -/
def extra (p : FeePolicy) (outputs : Nat) : Amount :=
  p.surcharge.mulCapped (outputs - 1)

/- The most that a payment may pay. -/
def mostFee (p : FeePolicy) : Amount :=
  p.bounds.most

/- The least that a payment with so many outputs may pay. -/
def leastFee (p : FeePolicy) (outputs : Nat) : Amount :=
  Amount.least (p.bounds.least.addCapped (p.extra outputs)) p.mostFee

/- What a payment with so many outputs usually pays. -/
def usualFee (p : FeePolicy) (outputs : Nat) : Amount :=
  Amount.least (p.bounds.usual.addCapped (p.extra outputs)) p.mostFee

/- A fee moved between the least and the most. -/
def clamp (p : FeePolicy) (outputs : Nat) (fee : Amount) : Amount :=
  Amount.least (Amount.greatest fee (p.leastFee outputs)) p.mostFee

/- The fee of a preset before it is clamped. -/
def rawFee
    (preset : FeePreset)
    (usual : Amount)
    (entered : Option Amount) : Amount :=
  match preset with
  | .custom => entered.getD usual
  | other =>
      match usual.scaleRound other.ratio with
      | .ok fee => fee
      | .error _ => .supply

end FeePolicy

------------------------------------------------------------
-- Selections
------------------------------------------------------------

/- The fee of a payment, with the bounds it was chosen within. -/
structure FeeSelection where
  preset : FeePreset
  least : Amount
  usual : Amount
  most : Amount
  selected : Amount
  entered : Option Amount
deriving DecidableEq, Repr

namespace FeeSelection

/- The fee of a payment with so many outputs. -/
def ofPolicy
    (p : FeePolicy)
    (preset : FeePreset)
    (entered : Option Amount)
    (outputs : Nat) : FeeSelection :=
  let usual := p.usualFee outputs
  { preset := preset
    least := p.leastFee outputs
    usual := usual
    most := p.mostFee
    selected := p.clamp outputs (FeePolicy.rawFee preset usual entered)
    entered := entered }

/- The fee that was entered, if another had to be selected. -/
def adjusted? (s : FeeSelection) : Option Amount :=
  if s.preset = .custom then
    s.entered.filter (· ≠ s.selected)
  else
    none

end FeeSelection

end Remit
