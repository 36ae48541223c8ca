import Remit.Composition.Basic

/-
  This file defines how a composition is changed in place: each
  editor writes into it and then works its outcome out anew,
  part by part, each part from what was last written. An editor
  that fails leaves whatever it has written by then.

  Key definitions include:
    * `Composition.rework`
    * `Composer`
    * `Composer.addRow`
    * `Composer.changeRow`
    * `Composer.applyMost`
    * `Composer.loadRows`
-/

namespace Remit

namespace Composition

------------------------------------------------------------
-- Working Out in Place
------------------------------------------------------------

/- The composition with another outcome written into it. -/
def withOutcome (c : Composition) (o : Outcome) : Composition :=
  { c with outcome := o }

/- Mark each row with what is wrong with it. -/
def markFaults (c : Composition) : Composition :=
  c.withOutcome
    { c.outcome with
      faults := c.rows.map (fun r => r.fault? c.network) }

/- The rows with their marks. -/
def markedRows (c : Composition) : List (Recipient × Option Fault) :=
  c.rows.zip c.outcome.faults

/- The amounts of the rows without a mark. -/
def soundAmounts (c : Composition) : List Amount :=
  (c.markedRows.filter (fun entry => entry.2.isNone)).filterMap
    (fun entry => entry.1.amount?)

/- Select the fee for as many rows as there are. -/
def selectFee (c : Composition) : Composition :=
  c.withOutcome
    { c.outcome with
      fee :=
        FeeSelection.ofPolicy
          (c.inputs.config.feePolicy c.inputs.bounds)
          c.inputs.preset c.inputs.customFee c.rows.length }

/- The exact totals of the rows without a mark, if they are amounts. -/
def checkedTotals (c : Composition) : Except AmountError Totals := do
  let amount ← Amount.sum c.soundAmounts
  let out ← amount.add c.fee
  return ⟨amount, out, false⟩

/- Sum up the rows without a mark and the fee that was selected. -/
def sumUp (c : Composition) : Composition :=
  c.withOutcome
    { c.outcome with
      totals :=
        match c.checkedTotals with
        | .ok totals => totals
        | .error _ =>
            ⟨Amount.sumCapped c.soundAmounts, .supply, true⟩ }

/- Compare the total with what can be spent. -/
def checkFunds (c : Composition) : Composition :=
  c.withOutcome
    { c.outcome with
      shortfall :=
        if c.soundAmounts ≠ [] ∧
            c.balance.spendable < c.outcome.totals.out then
          some
            ⟨c.outcome.totals.out, c.balance.spendable,
              c.balance.pending⟩
        else
          none }

/- The rows without a mark, numbered, by their trimmed addresses. -/
def soundAddresses (c : Composition) : List (String × Nat) :=
  (c.markedRows.zipIdx.filter
    (fun entry =>
      Text.trim entry.1.1.address ≠ "" ∧ entry.1.2.isNone)).map
        (fun entry => (Text.trim entry.1.1.address, entry.2))

/- The warning about the fee that was selected. -/
def selectedWarnings (c : Composition) : List Warning :=
  match c.outcome.fee.adjusted? with
  | some requested => [.customFeeAdjusted requested c.fee]
  | none => []

/- Collect the warnings about addresses, memos and the fee. -/
def collectWarnings (c : Composition) : Composition :=
  c.withOutcome
    { c.outcome with
      warnings :=
        Inputs.repeated [] c.soundAddresses
          ++ c.inputs.memoWarnings
          ++ c.selectedWarnings }

/- Work the whole outcome out anew, part by part. -/
def rework (c : Composition) : Composition :=
  c.markFaults.selectFee.sumUp.checkFunds.collectWarnings

/- The composition with other inputs written into it. -/
def withInputs (c : Composition) (i : Inputs) : Composition :=
  { c with inputs := i }

/- The composition with other rows and marks written into it. -/
def withMarked
    (c : Composition)
    (rows : List Recipient)
    (marks : List (Option Fault)) : Composition :=
  (c.withInputs { c.inputs with rows := rows }).withOutcome
    { c.outcome with faults := marks }

/- The start of a composition, before anything is worked out. -/
def unworked (config : Config) : Composition where
  inputs := (new config).inputs
  outcome :=
    { faults := []
      fee :=
        FeeSelection.ofPolicy
          (config.feePolicy config.fallbackFees) .standard none 0
      totals := ⟨.zero, .zero, false⟩
      shortfall := none
      warnings := [] }

end Composition

------------------------------------------------------------
-- Editors
------------------------------------------------------------

/- What edits a composition in place, and may fail on the way. -/
abbrev Composer (α : Type) : Type :=
  EStateM SendError Composition α

namespace Composer

open Remit.Composition

/- Write other inputs, then work the outcome out anew. -/
def rewrite (change : Inputs → Inputs) : Composer Unit := do
  modify (fun c => c.withInputs (change c.inputs))
  modify rework

/- Fail unless a row is there. -/
def requireRow (row : Nat) : Composer Unit := do
  let c ← get
  if row < c.rows.length then
    return ()
  else
    throw (.noSuchRow row c.rows.length)

/- Change one row, which must be there; its mark stays until later. -/
def changeRow (row : Nat) (change : Recipient → Recipient) :
    Composer Unit := do
  requireRow row
  rewrite (fun i => { i with rows := i.rows.modify row change })

/-
  Add a row, unless there are as many as allowed, and tell its
  number. It may come with a mark from elsewhere.
-/
def addRow (r : Recipient) (mark : Option Fault) : Composer Nat := do
  let c ← get
  if c.inputs.config.maxRecipients ≤ c.rows.length then
    throw c.tooMany
  else
    set (c.withMarked (c.rows ++ [r]) (c.outcome.faults ++ [mark]))
    modify rework
    return (← get).rows.length - 1

/- Remove a row, which must be there, and give it back marked. -/
def removeRow (row : Nat) : Composer (Recipient × Option Fault) := do
  let c ← get
  match c.rows[row]? with
  | none => throw (.noSuchRow row c.rows.length)
  | some r =>
      set
        (c.withMarked (c.rows.eraseIdx row)
          (c.outcome.faults.eraseIdx row))
      modify rework
      return (r, c.outcome.faults[row]?.join)

/- Write the most that a row can be paid into it, and tell it. -/
def applyMost (row : Nat) : Composer Amount := do
  let c ← get
  match c.mostFor row with
  | .error e => throw e
  | .ok most =>
      changeRow row ({ · with amountText := most.shortText })
      return most

/- Replace all rows, unless there are more than allowed. -/
def loadRows (rows : List ImportRow) : Composer Unit := do
  let c ← get
  if c.inputs.config.maxRecipients < rows.length then
    throw c.tooMany
  else
    set
      (c.withMarked (rows.map ImportRow.toRecipient)
        (rows.map (fun _ => none)))
    modify rework

/- Drop all rows and any custom fee. -/
def clear : Composer Unit := do
  modify (fun c => c.withMarked [] [])
  rewrite (fun i => { i with preset := .standard, customFee := none })

/- Enter something in place; only an added row comes with a mark. -/
def enter (mark : Option Fault) : Entry → Composer Unit
| .add r => do
    let _ ← addRow r mark
| .remove row => do
    let _ ← removeRow row
| .address row text => changeRow row ({ · with address := text })
| .amount row text => changeRow row ({ · with amountText := text })
| .memo row text => changeRow row ({ · with memo := memoOf text })
| .memoBytes row bytes =>
    changeRow row ({ · with memo := bytes.map Memo.mk })
| .label row text => changeRow row ({ · with label := labelOf text })
| .most row => do
    let _ ← applyMost row
| .preset p => rewrite (fun i => { i with preset := p })
| .customFee fee =>
    rewrite
      (fun i => { i with preset := .custom, customFee := some fee })
| .load rows => loadRows rows
| .clear => clear

end Composer

end Remit
