import Remit.Command.Failure
import Remit.Command.Order
import Remit.Table

/-
  This file defines what is reported of a composition and of a
  draft: totals, a line for each recipient, tables, and values
  for a program.

  Key definitions include:
    * `Command.Summary`
    * `Command.RecipientLine`
    * `Command.recipientLines`
    * `Command.compositionValue`
    * `Command.draftValue`
    * `Command.Report`
    * `Command.document`
-/

namespace Remit.Command

open Json

------------------------------------------------------------
-- Totals
------------------------------------------------------------

/- The totals that are shown before anything is built. -/
structure Summary where
  network : Network
  scope : Scope
  recipients : Nat
  amountTotal : Amount
  fee : Amount
  totalOut : Amount
  balance : Balance
deriving DecidableEq, Repr

/- The totals of a composition. -/
def Summary.ofComposition (c : Composition) : Summary where
  network := c.network
  scope := c.scope
  recipients := c.rows.length
  amountTotal := c.outcome.totals.amount
  fee := c.fee
  totalOut := c.outcome.totals.out
  balance := c.balance

/- The table of totals. -/
def Summary.table (s : Summary) : Table where
  header :=
    ["Network", "Scope", "Recipients", "Amount", "Fee", "Total out",
     "Spendable", "Pending"]
  rows :=
    [[s.network.name, s.scope.text, toString s.recipients,
      s.amountTotal.fixedText, s.fee.fixedText, s.totalOut.fixedText,
      s.balance.spendable.fixedText, s.balance.pending.fixedText]]

------------------------------------------------------------
-- Recipients
------------------------------------------------------------

/- How a row stands. -/
inductive RowStatus where
| valid
| warning
| error
deriving DecidableEq, Repr

/- The name of a standing. -/
def RowStatus.name : RowStatus → String
| valid => "valid"
| warning => "warning"
| error => "error"

/- A row as it was entered, counted from one, and how it stands. -/
structure RecipientLine where
  row : Nat
  address : String
  label : Option String
  amount : String
  memo : Option String
  status : RowStatus
deriving DecidableEq, Repr

/- The rows that pay an address that an earlier row pays. -/
def repeatedRows (warnings : List Warning) : List Nat :=
  warnings.filterMap
    (fun w =>
      match w with
      | .duplicateAddress _ row => some row
      | _ => none)

/- How a row stands, given its fault and the repeated rows. -/
def rowStatus
    (repeated : List Nat)
    (fault : Option Fault)
    (row : Nat) : RowStatus :=
  if fault.isSome then
    .error
  else if row ∈ repeated then
    .warning
  else
    .valid

/- The lines of the recipients. -/
def recipientLines (c : Composition) : List RecipientLine :=
  let repeated := repeatedRows c.outcome.warnings
  (c.rows.zip c.outcome.faults).zipIdx.map
    (fun entry =>
      let r := entry.1.1
      { row := entry.2 + 1
        address := r.address
        label := r.label
        amount := r.amountText
        memo := r.memo.bind Memo.text?
        status := rowStatus repeated entry.1.2 entry.2 })

/- The start of a text, with points where more follows. -/
def preview (most : Nat) (s : String) : String :=
  let cs := s.toList
  if most < cs.length then
    String.ofList (cs.take most) ++ "..."
  else
    s

/- The most characters shown of an address. -/
def addressPreview : Nat :=
  24

/- The most characters shown of a label or memo. -/
def textPreview : Nat :=
  20

/- The start of a text, or a dash for none. -/
def previewOrDash (s : Option String) : String :=
  match s with
  | some s => preview textPreview s
  | none => "-"

/- The cells of a line. -/
def RecipientLine.cells (l : RecipientLine) : List String :=
  [toString l.row, preview addressPreview l.address,
   previewOrDash l.label, l.amount, previewOrDash l.memo,
   l.status.name]

/- The table of the recipients. -/
def recipientTable (ls : List RecipientLine) : Table where
  header := ["#", "Address", "Label", "Amount", "Memo", "Status"]
  rows := ls.map RecipientLine.cells

/- A line as a program reads it. -/
def RecipientLine.toValue (l : RecipientLine) : Value :=
  .record
    [("row", .natural l.row),
     ("address", .text l.address),
     ("label", textOrNull l.label),
     ("amount", .text l.amount),
     ("memo", textOrNull l.memo),
     ("status", .text l.status.name)]

/- A row as a program reads it, counted from zero. -/
def recipientValue (r : Recipient) (row : Nat) : Value :=
  .record
    [("index", .natural row),
     ("address", .text r.address),
     ("amount",
       Value.nullable (fun a => .text (Amount.fixedText a)) r.amount?),
     ("memoBytes", .natural ((r.memo.map Memo.size).getD 0)),
     ("label", textOrNull r.label)]

------------------------------------------------------------
-- Compositions and Drafts
------------------------------------------------------------

/- A fee as a program reads it. -/
def feeValue (s : FeeSelection) : Value :=
  .record
    [("preset", .text s.preset.name),
     ("min", .text s.least.fixedText),
     ("max", .text s.most.fixedText),
     ("selected", .text s.selected.fixedText)]

/- A composition as a program reads it. -/
def compositionValue (c : Composition) : Value :=
  .record
    [("network", .text c.network.name),
     ("scope", .text c.scope.text),
     ("recipients",
       Value.ofList (fun entry => recipientValue entry.1 entry.2)
         c.rows.zipIdx),
     ("fee", feeValue c.outcome.fee),
     ("amountTotal", .text c.outcome.totals.amount.fixedText),
     ("totalOut", .text c.outcome.totals.out.fixedText),
     ("spendable", .text c.balance.spendable.fixedText),
     ("pending", .text c.balance.pending.fixedText)]

/- A draft as a program reads it. -/
def draftValue (d : Draft) : Value :=
  .record
    [("id", .text (DraftId.text d.id)),
     ("outputs", .natural d.outputs.length),
     ("totalAmount", .text d.totalAmount.fixedText),
     ("fee", .text d.fee.fixedText),
     ("totalOut", .text d.totalOut.fixedText),
     ("inputTotal", .text d.inputTotal.fixedText),
     ("change", .text d.change.fixedText),
     ("numInputs", .natural d.numInputs),
     ("expiryHeight", .natural d.expiryHeight),
     ("requestFingerprint", textOrNull d.fingerprint)]

/- The table of a draft. -/
def draftTable (d : Draft) : Table where
  header :=
    ["Amount", "Fee", "Total out", "Inputs", "Change", "Expiry"]
  rows :=
    [[d.totalAmount.fixedText, d.fee.fixedText, d.totalOut.fixedText,
      toString d.numInputs, d.change.fixedText,
      toString d.expiryHeight]]

------------------------------------------------------------
-- Reports
------------------------------------------------------------

/- What a command that succeeds has come to. -/
structure Report where
  composition : Composition
  stage : Stage
  draft : Option Draft
deriving DecidableEq, Repr

namespace Report

/- The operation that leads to a report. -/
def operation (r : Report) : Operation :=
  if r.draft.isSome then .review else .validate

/- The headline of a report. -/
def message (r : Report) : String :=
  match r.draft with
  | some d =>
      "transaction built: " ++ d.totalAmount.fixedText ++ " ARRR to "
        ++ toString d.outputs.length ++ " recipient(s), fee "
        ++ d.fee.fixedText ++ " ARRR"
  | none =>
      toString r.composition.rows.length ++ " recipient(s) valid, "
        ++ r.composition.outcome.totals.out.fixedText
        ++ " ARRR out including fee"

/-
  What a program reads of a report. The draft takes the place of
  the funds that wait for confirmation.
-/
def result (r : Report) : Value :=
  match r.draft with
  | some d =>
      (compositionValue r.composition).extend
        [("pending", draftValue d)]
  | none => compositionValue r.composition

end Report

------------------------------------------------------------
-- Documents
------------------------------------------------------------

/- The version that documents bear. -/
def version : String :=
  "0.1.0"

/- A warning as a program reads it. -/
def warningValue (w : Warning) : Value :=
  .record [("code", .text w.code), ("message", .text w.message)]

/- The document of a report, at a time that never changes. -/
def reportDocument (r : Report) : Value :=
  .record
    [("success", .bool true),
     ("sendflowVersion", .text version),
     ("operation", .text r.operation.name),
     ("state", .text r.stage.name),
     ("timestamp", .text Time.epoch.text),
     ("result", r.result),
     ("error", .null),
     ("warnings",
       Value.ofList warningValue r.composition.outcome.warnings)]

/- The document of a failure. -/
def failureDocument (o : Operation) (f : Failure) : Value :=
  .record
    [("success", .bool false),
     ("sendflowVersion", .text version),
     ("operation", .text o.name),
     ("timestamp", .text Time.epoch.text),
     ("result", .null),
     ("error", f.toValue),
     ("warnings", .list [])]

/- The document of whatever a command has come to. -/
def document (o : Operation) : Except CommandError Report → Value
| .ok r => reportDocument r
| .error e => failureDocument o e.failure

end Remit.Command
