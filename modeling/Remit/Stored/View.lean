import Remit.Flow.Basic
import Remit.Stored.Payment

/-
  This file gives the JSON forms of what is shown: selections of
  fees, warnings, rows, compositions, requests and snapshots.

  Key definitions include:
    * `FeeSelection.toValue`
    * `Warning.toValue`
    * `CompositionView.toValue`
    * `Request.toValue`
    * `Snapshot.toValue`
-/

namespace Remit

open Json

------------------------------------------------------------
-- Fees and Warnings
------------------------------------------------------------

/- A fee selection with the bounds it was chosen within. -/
def FeeSelection.toValue (s : FeeSelection) : Value :=
  .record
    [("preset", s.preset.toValue),
     ("min_fee", s.least.toValue),
     ("default_fee", s.usual.toValue),
     ("max_fee", s.most.toValue),
     ("selected_fee", s.selected.toValue),
     ("custom_fee", Value.nullable Amount.toValue s.entered)]

/- A warning, with the name of its kind. -/
def Warning.toValue : Warning → Value
| duplicateAddress first row =>
    .record
      [("kind", .text "duplicate_address"),
       ("first", .natural first),
       ("duplicate", .natural row)]
| memoNearLimit row bytes =>
    .record
      [("kind", .text "memo_near_limit"),
       ("index", .natural row),
       ("bytes", .natural bytes)]
| customFeeAdjusted requested applied =>
    .record
      [("kind", .text "custom_fee_adjusted"),
       ("requested", requested.toValue),
       ("applied", applied.toValue)]

------------------------------------------------------------
-- Compositions
------------------------------------------------------------

/- A fault of a row. -/
def Fault.toValue (f : Fault) : Value :=
  .record
    [("field", .text f.field.name),
     ("code", .natural f.taxonomy.code),
     ("message", .text f.message)]

/- What is shown of a row. -/
def RowView.toValue (r : RowView) : Value :=
  .record
    [("index", .natural r.row),
     ("address", .text r.address),
     ("amount", .text r.amount),
     ("label", textOrNull r.label),
     ("memo", textOrNull r.memo),
     ("memo_bytes", .natural r.memoBytes),
     ("memo_remaining", .natural r.memoRemaining),
     ("error", Value.nullable Fault.toValue r.fault)]

/- What is shown of a composition. -/
def CompositionView.toValue (v : CompositionView) : Value :=
  .record
    [("network", v.network.toValue),
     ("recipients", Value.ofList RowView.toValue v.rows),
     ("max_recipients", .natural v.maxRecipients),
     ("fee", v.fee.toValue),
     ("scope", v.scope.toValue),
     ("balance", v.balance.toValue),
     ("amount_total", v.amountTotal.toValue),
     ("total_out", v.totalOut.toValue),
     ("insufficient_funds", textOrNull v.shortfall),
     ("warnings", Value.ofList Warning.toValue v.warnings)]

/- A request for a payment. -/
def Request.toValue (r : Request) : Value :=
  .record
    [("network", r.payment.network.toValue),
     ("recipients", Value.ofList Output.toValue r.payment.outputs),
     ("fee", r.payment.fee.toValue),
     ("scope", r.payment.scope.toValue),
     ("total_out", r.totalOut.toValue),
     ("fingerprint", .text r.fingerprint)]

------------------------------------------------------------
-- Snapshots
------------------------------------------------------------

/- What is kept of a failure. -/
def Notice.toValue (n : Notice) : Value :=
  .record
    [("code", .natural n.taxonomy.code),
     ("name", .text n.taxonomy.name),
     ("message", .text n.message)]

/- What subscribers see. -/
def Snapshot.toValue (s : Snapshot) : Value :=
  .record
    [("state", .text s.stage.name),
     ("composition", s.composition.toValue),
     ("pending", Value.nullable Draft.toValue s.draft),
     ("txid", textOrNull s.txid),
     ("last_error", Value.nullable Notice.toValue s.lastError)]

end Remit
