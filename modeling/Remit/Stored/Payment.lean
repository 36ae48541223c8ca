import Remit.Config
import Remit.Draft
import Remit.Engine.Error
import Remit.Import.Row
import Remit.Stored.Money

/-
  This file gives the stored JSON forms of memos, recipients,
  imported rows, outputs, drafts, engine failures and settings.

  Key definitions include:
    * `Memo.ofTree?`
    * `Recipient.ofTree?`
    * `ImportRow.ofTree?`
    * `Output.ofTree?`
    * `Draft.ofTree?`
    * `EngineError.ofTree?`
    * `Config.ofTree?`
-/

namespace Remit

open Json

------------------------------------------------------------
-- Memos
------------------------------------------------------------

/- A memo is stored in base64. -/
def Memo.toValue (m : Memo) : Value :=
  .text m.base64

/- Read a memo. -/
def Memo.ofTree? (t : Tree) : Option Memo := do
  let s ← t.text?
  let bytes ← Base64.decode? s
  some ⟨bytes⟩

/- A text or nothing, as it is stored. -/
def textOrNull (s : Option String) : Value :=
  Value.nullable Value.text s

------------------------------------------------------------
-- Recipients
------------------------------------------------------------

/- The fields of a stored recipient. -/
def Recipient.fields : List String :=
  ["address", "amount_text", "memo", "label"]

/- A recipient as it is stored. -/
def Recipient.toValue (r : Recipient) : Value :=
  .record
    [("address", .text r.address),
     ("amount_text", .text r.amountText),
     ("memo", Value.nullable Memo.toValue r.memo),
     ("label", textOrNull r.label)]

/- Read a recipient. -/
def Recipient.ofTree? (t : Tree) : Option Recipient := do
  let r ← t.record? Recipient.fields
  let address ← r.required? "address" Tree.text?
  let amountText ← r.required? "amount_text" Tree.text?
  let memo ← r.optional? "memo" Memo.ofTree?
  let label ← r.optional? "label" Tree.text?
  some ⟨address, amountText, memo, label⟩

------------------------------------------------------------
-- Imported Rows
------------------------------------------------------------

/- The fields of a stored row. -/
def ImportRow.fields : List String :=
  ["row_number", "address", "amount", "memo", "label"]

/- A row as it is stored. -/
def ImportRow.toValue (r : ImportRow) : Value :=
  .record
    [("row_number", .natural r.number),
     ("address", .text r.address),
     ("amount", .text r.amount),
     ("memo", textOrNull r.memo),
     ("label", textOrNull r.label)]

/- Read a row; all but the address and the amount may be left out. -/
def ImportRow.ofTree? (t : Tree) : Option ImportRow := do
  let r ← t.record? ImportRow.fields
  let number ←
    r.defaulted? "row_number" 0 (Tree.natural? Numeral.wordMax)
  let address ← r.required? "address" Tree.text?
  let amount ← r.required? "amount" Tree.text?
  let memo ← r.defaulted? "memo" none (Tree.nullable? Tree.text?)
  let label ← r.defaulted? "label" none (Tree.nullable? Tree.text?)
  some ⟨number, address, amount, memo, label⟩

------------------------------------------------------------
-- Outputs and Drafts
------------------------------------------------------------

/- The fields of a stored output. -/
def Output.fields : List String :=
  ["address", "amount", "memo"]

/- An output as it is stored. -/
def Output.toValue (o : Output) : Value :=
  .record
    [("address", .text o.address),
     ("amount", o.amount.toValue),
     ("memo", Value.nullable Memo.toValue o.memo)]

/- Read an output. -/
def Output.ofTree? (t : Tree) : Option Output := do
  let r ← t.record? Output.fields
  let address ← r.required? "address" Tree.text?
  let amount ← r.required? "amount" Amount.ofTree?
  let memo ← r.optional? "memo" Memo.ofTree?
  some ⟨address, amount, memo⟩

/- The largest number of an unsigned 32-bit word. -/
def smallWordMax : Nat :=
  UInt32.size - 1

/- The fields of a stored draft. -/
def Draft.fields : List String :=
  ["id", "outputs", "fee", "total_amount", "change", "input_total",
   "num_inputs", "expiry_height", "created_at",
   "request_fingerprint"]

/- A draft as it is stored. -/
def Draft.toValue (d : Draft) : Value :=
  .record
    [("id", .text (DraftId.text d.id)),
     ("outputs", Value.ofList Output.toValue d.outputs),
     ("fee", d.fee.toValue),
     ("total_amount", d.totalAmount.toValue),
     ("change", d.change.toValue),
     ("input_total", d.inputTotal.toValue),
     ("num_inputs", .natural d.numInputs),
     ("expiry_height", .natural d.expiryHeight),
     ("created_at", .text d.createdAt.text),
     ("request_fingerprint", textOrNull d.fingerprint)]

/- Read a draft; the fingerprint may be left out. -/
def Draft.ofTree? (t : Tree) : Option Draft := do
  let r ← t.record? Draft.fields
  let id ← r.required? "id" (fun t => t.text?.bind DraftId.ofText?)
  let outputs ← r.required? "outputs" (Tree.mapList? Output.ofTree?)
  let fee ← r.required? "fee" Amount.ofTree?
  let totalAmount ← r.required? "total_amount" Amount.ofTree?
  let change ← r.required? "change" Amount.ofTree?
  let inputTotal ← r.required? "input_total" Amount.ofTree?
  let numInputs ← r.required? "num_inputs" (Tree.natural? smallWordMax)
  let expiryHeight ←
    r.required? "expiry_height" (Tree.natural? smallWordMax)
  let createdAt ←
    r.required? "created_at" (fun t => t.text?.bind Time.ofText?)
  let fingerprint ←
    r.defaulted? "request_fingerprint" none (Tree.nullable? Tree.text?)
  some
    { id := id
      outputs := outputs
      fee := fee
      totalAmount := totalAmount
      change := change
      inputTotal := inputTotal
      numInputs := numInputs
      expiryHeight := expiryHeight
      createdAt := createdAt
      fingerprint := fingerprint }

------------------------------------------------------------
-- Engine Failures
------------------------------------------------------------

/- The kind of engine failure of a name. -/
def EngineError.Kind.ofName? (name : String) : Option EngineError.Kind :=
  EngineError.Kind.all.find? (fun k => k.name == name)

/- An engine failure as it is stored. -/
def EngineError.toValue (e : EngineError) : Value :=
  .record [("kind", .text e.kind.name), ("detail", .text e.detail)]

/- Read an engine failure. -/
def EngineError.ofTree? (t : Tree) : Option EngineError := do
  let r ← t.record? ["kind", "detail"]
  let kind ←
    r.required? "kind" (fun t => t.choice? EngineError.Kind.ofName?)
  let detail ← r.required? "detail" Tree.text?
  some ⟨kind, detail⟩

------------------------------------------------------------
-- Settings
------------------------------------------------------------

/- The fields of stored settings. -/
def Config.fields : List String :=
  ["network", "max_recipients", "per_output_surcharge",
   "fallback_fee_info", "memo_warning_bytes"]

/- Settings as they are stored. -/
def Config.toValue (c : Config) : Value :=
  .record
    [("network", c.network.toValue),
     ("max_recipients", .natural c.maxRecipients),
     ("per_output_surcharge", c.surcharge.toValue),
     ("fallback_fee_info", c.fallbackFees.toValue),
     ("memo_warning_bytes", .natural c.memoWarningBytes)]

/- Read settings; what is left out has its usual value. -/
def Config.ofTree? (t : Tree) : Option Config := do
  let usual : Config := {}
  let r ← t.record? Config.fields
  let network ← r.defaulted? "network" usual.network Network.ofTree?
  let maxRecipients ←
    r.defaulted? "max_recipients" usual.maxRecipients
      (Tree.natural? Numeral.wordMax)
  let surcharge ←
    r.defaulted? "per_output_surcharge" usual.surcharge
      Amount.ofTree?
  let fallbackFees ←
    r.defaulted? "fallback_fee_info" usual.fallbackFees
      FeeBounds.ofTree?
  let memoWarningBytes ←
    r.defaulted? "memo_warning_bytes" usual.memoWarningBytes
      (Tree.natural? Numeral.wordMax)
  some
    { network := network
      maxRecipients := maxRecipients
      surcharge := surcharge
      fallbackFees := fallbackFees
      memoWarningBytes := memoWarningBytes }

end Remit
