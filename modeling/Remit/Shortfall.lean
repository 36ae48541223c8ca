import Remit.Amount.Decimal

/-
  This file defines what is reported when a payment needs more
  than can be spent.

  Key definitions include:
    * `Shortfall`
    * `Shortfall.missing`
    * `Shortfall.message`
-/

namespace Remit

/- What is needed, and what there is. -/
structure Shortfall where
  required : Amount
  spendable : Amount
  pending : Amount
deriving DecidableEq, Repr

namespace Shortfall

/- By how much the spendable funds fall short. -/
def missing (s : Shortfall) : Amount :=
  s.required.subFloored s.spendable

/- More funds wait for confirmation. -/
def HasPending (s : Shortfall) : Prop :=
  ¬ s.pending.IsZero

instance (s : Shortfall) : Decidable s.HasPending := by
  unfold HasPending
  infer_instance

/- The entry of a shortfall in the catalogue. -/
def taxonomy (s : Shortfall) : Taxonomy :=
  if s.HasPending then
    .insufficientFundsPending
  else
    .insufficientFunds

/- The wording of a shortfall. -/
def message (s : Shortfall) : String :=
  let required := s.required.fixedText
  let spendable := s.spendable.fixedText
  let pending := s.pending.fixedText
  let missing := s.missing.fixedText
  if s.HasPending then
    s!"Insufficient spendable funds, but {pending} ARRR is pending "
      ++ s!"confirmation: need {required} ARRR, spendable {spendable} "
      ++ s!"ARRR (short by {missing} ARRR)"
  else
    s!"Insufficient funds: need {required} ARRR, have {spendable} "
      ++ s!"ARRR (short by {missing} ARRR)"

end Shortfall

end Remit
