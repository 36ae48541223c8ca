import Remit.Composition.Warning
import Remit.Config
import Remit.Fee
import Remit.Recipient
import Remit.Scope.Basic
import Remit.Shortfall

/-
  This file defines what is entered of a payment and everything
  that follows from it: faults, fee, totals, shortfall and
  warnings.

  Key definitions include:
    * `Inputs`
    * `Inputs.faults`
    * `Inputs.fee`
    * `Totals`
    * `Inputs.totals`
    * `Inputs.shortfall?`
    * `Inputs.warnings`
    * `Outcome`
    * `Inputs.outcome`
-/

namespace Remit

------------------------------------------------------------
-- Inputs
------------------------------------------------------------

/- All that a payment depends on. -/
structure Inputs where
  config : Config
  bounds : FeeBounds
  rows : List Recipient
  preset : FeePreset
  customFee : Option Amount
  scope : Scope
  balance : Balance
deriving DecidableEq, Repr

/- The totals of a payment, and whether they exceed the supply. -/
structure Totals where
  amount : Amount
  out : Amount
  overflow : Bool
deriving DecidableEq, Repr

/- Everything that follows from the inputs. -/
structure Outcome where
  faults : List (Option Fault)
  fee : FeeSelection
  totals : Totals
  shortfall : Option Shortfall
  warnings : List Warning
deriving DecidableEq, Repr

namespace Inputs

------------------------------------------------------------
-- Rows
------------------------------------------------------------

/- What is wrong with each row. -/
def faults (i : Inputs) : List (Option Fault) :=
  i.rows.map (fun r => r.fault? i.config.network)

/- The amounts of the valid rows. -/
def validAmounts (i : Inputs) : List Amount :=
  (i.rows.filter (fun r => r.IsValid i.config.network)).filterMap
    Recipient.amount?

------------------------------------------------------------
-- Fee and Totals
------------------------------------------------------------

/- The fee for as many outputs as there are rows. -/
def fee (i : Inputs) : FeeSelection :=
  FeeSelection.ofPolicy (i.config.feePolicy i.bounds) i.preset
    i.customFee i.rows.length

/- The exact totals, as long as they are amounts. -/
def exactTotals (i : Inputs) : Except AmountError Totals := do
  let amount ← Amount.sum i.validAmounts
  let out ← amount.add i.fee.selected
  return ⟨amount, out, false⟩

/- The exact totals, or totals that are stopped at the supply. -/
def totals (i : Inputs) : Totals :=
  match i.exactTotals with
  | .ok totals => totals
  | .error _ => ⟨Amount.sumCapped i.validAmounts, .supply, true⟩

/-
  The shortfall, if the total is more than can be spent. Without
  a valid row there is nothing to fall short of.
-/
def shortfall? (i : Inputs) : Option Shortfall :=
  if i.validAmounts ≠ [] ∧ i.balance.spendable < i.totals.out then
    some ⟨i.totals.out, i.balance.spendable, i.balance.pending⟩
  else
    none

------------------------------------------------------------
-- Warnings
------------------------------------------------------------

/- The valid rows, numbered, by their trimmed addresses. -/
def validAddresses (i : Inputs) : List (String × Nat) :=
  (i.rows.zipIdx.filter
    (fun entry => entry.1.IsValid i.config.network)).map
      (fun entry => (Text.trim entry.1.address, entry.2))

/-
  One warning for each address that was seen before, with the
  row where it was seen first.
-/
def repeated (seen : List (String × Nat)) :
    List (String × Nat) → List Warning
| [] => []
| (address, row) :: rest =>
    match seen.lookup address with
    | some first =>
        .duplicateAddress first row :: repeated seen rest
    | none => repeated ((address, row) :: seen) rest

/- The warning about the memo of a row. -/
def memoWarning? (c : Config) (r : Recipient) (row : Nat) :
    Option Warning :=
  match r.memo with
  | some m =>
      if m.IsNearLimit c.memoWarningBytes ∧ m.size ≤ Memo.mostBytes then
        some (.memoNearLimit row m.size)
      else
        none
  | none => none

/- The warnings about memos, in the order of the rows. -/
def memoWarnings (i : Inputs) : List Warning :=
  i.rows.zipIdx.filterMap
    (fun entry => memoWarning? i.config entry.1 entry.2)

/- The warning that a custom fee was not selected as it was entered. -/
def feeWarnings (i : Inputs) : List Warning :=
  match i.fee.adjusted? with
  | some requested => [.customFeeAdjusted requested i.fee.selected]
  | none => []

/- All warnings: repeated addresses, then memos, then the fee. -/
def warnings (i : Inputs) : List Warning :=
  repeated [] i.validAddresses ++ i.memoWarnings ++ i.feeWarnings

------------------------------------------------------------
-- The Outcome
------------------------------------------------------------

/- Everything that follows from the inputs. -/
def outcome (i : Inputs) : Outcome where
  faults := i.faults
  fee := i.fee
  totals := i.totals
  shortfall := i.shortfall?
  warnings := i.warnings

end Inputs

end Remit
