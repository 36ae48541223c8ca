import Remit.Composition.Outcome
import Remit.Import.Row
import Remit.Payment
import Remit.SendError

/-
  This file defines compositions: a payment while it is entered,
  together with what follows from the entries. Every edit works
  the outcome out anew; an edit that is refused yields nothing.

  Key definitions include:
    * `Composition`
    * `Composition.new`
    * `Entry`
    * `Composition.enter`
    * `Composition.Reachable`
    * `Composition.validate`
    * `Composition.payment`
-/

namespace Remit

------------------------------------------------------------
-- Compositions
------------------------------------------------------------

/- The inputs of a payment and their outcome. -/
structure Composition where
  inputs : Inputs
  outcome : Outcome
deriving DecidableEq, Repr

namespace Composition

/- The composition of inputs whose outcome was worked out. -/
def ofInputs (i : Inputs) : Composition where
  inputs := i
  outcome := i.outcome

/- Work the outcome out anew. -/
def recompute (c : Composition) : Composition :=
  ofInputs c.inputs

/- Nothing is entered yet. -/
def new (config : Config) : Composition :=
  ofInputs
    { config := config
      bounds := config.fallbackFees
      rows := []
      preset := .standard
      customFee := none
      scope := .auto
      balance := .zero }

/- The rows of a composition. -/
def rows (c : Composition) : List Recipient :=
  c.inputs.rows

/- The network of a composition. -/
def network (c : Composition) : Network :=
  c.inputs.config.network

/- The scope of a composition. -/
def scope (c : Composition) : Scope :=
  c.inputs.scope

/- The balance that a composition is paid from. -/
def balance (c : Composition) : Balance :=
  c.inputs.balance

/- The fee of a composition. -/
def fee (c : Composition) : Amount :=
  c.outcome.fee.selected

------------------------------------------------------------
-- Settings from the Wallet
------------------------------------------------------------

/- Choose which funds may be spent. -/
def setScope (c : Composition) (scope : Scope) : Composition :=
  ofInputs { c.inputs with scope := scope }

/- Take over what can be spent. -/
def setBalance (c : Composition) (balance : Balance) : Composition :=
  ofInputs { c.inputs with balance := balance }

/- Take over the bounds of the fee. -/
def setBounds (c : Composition) (bounds : FeeBounds) : Composition :=
  ofInputs { c.inputs with bounds := bounds }

end Composition

------------------------------------------------------------
-- Entries
------------------------------------------------------------

/- What can be entered; rows are counted from zero. -/
inductive Entry where
| add (r : Recipient)
| remove (row : Nat)
| address (row : Nat) (text : String)
| amount (row : Nat) (text : String)
| memo (row : Nat) (text : String)
| memoBytes (row : Nat) (bytes : Option Bytes)
| label (row : Nat) (text : Option String)
| most (row : Nat)
| preset (p : FeePreset)
| customFee (fee : Amount)
| load (rows : List ImportRow)
| clear
deriving DecidableEq, Repr

namespace Composition

/- The composition with other rows. -/
def setRows (c : Composition) (rows : List Recipient) : Composition :=
  ofInputs { c.inputs with rows := rows }

/- Change one row, which must be there. -/
def setRow
    (c : Composition)
    (row : Nat)
    (change : Recipient → Recipient) : Except SendError Composition :=
  if row < c.rows.length then
    .ok (c.setRows (c.rows.modify row change))
  else
    .error (.noSuchRow row c.rows.length)

/- The failure when there are more rows than allowed. -/
def tooMany (c : Composition) : SendError :=
  .fault (.tooManyRecipients c.inputs.config.maxRecipients)

/- What the rows other than one are to be paid together. -/
def othersTotal (c : Composition) (row : Nat) : Amount :=
  Amount.sumCapped ((c.rows.eraseIdx row).filterMap Recipient.amount?)

/- The most that a row can be paid besides the fee and the others. -/
def mostFor (c : Composition) (row : Nat) : Except SendError Amount :=
  if row < c.rows.length then
    .ok
      ((c.balance.spendable.subFloored c.fee).subFloored
        (c.othersTotal row))
  else
    .error (.noSuchRow row c.rows.length)

/- A label that is all blank is no label. -/
def labelOf (text : Option String) : Option String :=
  text.filter (fun s => ¬ Text.AllBlank s)

/- A text without characters is no memo. -/
def memoOf (text : String) : Option Memo :=
  if text = "" then none else some (Memo.ofText text)

/- The composition with nothing entered, as it was left otherwise. -/
def cleared (c : Composition) : Composition :=
  ofInputs
    { c.inputs with
      rows := []
      preset := .standard
      customFee := none }

/- Enter something; an entry that is refused yields a failure only. -/
def enter (c : Composition) : Entry → Except SendError Composition
| .add r =>
    if c.inputs.config.maxRecipients ≤ c.rows.length then
      .error c.tooMany
    else
      .ok (c.setRows (c.rows ++ [r]))
| .remove row =>
    if row < c.rows.length then
      .ok (c.setRows (c.rows.eraseIdx row))
    else
      .error (.noSuchRow row c.rows.length)
| .address row text => c.setRow row ({ · with address := text })
| .amount row text => c.setRow row ({ · with amountText := text })
| .memo row text => c.setRow row ({ · with memo := memoOf text })
| .memoBytes row bytes =>
    c.setRow row ({ · with memo := bytes.map Memo.mk })
| .label row text => c.setRow row ({ · with label := labelOf text })
| .most row =>
    match c.mostFor row with
    | .ok a => c.setRow row ({ · with amountText := a.shortText })
    | .error e => .error e
| .preset p => .ok (ofInputs { c.inputs with preset := p })
| .customFee fee =>
    .ok
      (ofInputs
        { c.inputs with preset := .custom, customFee := some fee })
| .load rows =>
    if c.inputs.config.maxRecipients < rows.length then
      .error c.tooMany
    else
      .ok (c.setRows (rows.map ImportRow.toRecipient))
| .clear => .ok c.cleared

/- The compositions that entries and settings lead to. -/
inductive Reachable (config : Config) : Composition → Prop where
| new : Reachable config (new config)
| enter
    {c d : Composition}
    (e : Entry)
    (hc : Reachable config c)
    (hd : c.enter e = .ok d) :
    Reachable config d
| setScope
    {c : Composition}
    (s : Scope)
    (hc : Reachable config c) :
    Reachable config (c.setScope s)
| setBalance
    {c : Composition}
    (b : Balance)
    (hc : Reachable config c) :
    Reachable config (c.setBalance b)
| setBounds
    {c : Composition}
    (b : FeeBounds)
    (hc : Reachable config c) :
    Reachable config (c.setBounds b)

------------------------------------------------------------
-- Validation
------------------------------------------------------------

/- The outputs that the rows amount to. -/
def outputs (c : Composition) : List Output :=
  c.rows.map
    (fun r =>
      { address := Text.trim r.address
        amount := r.amount?.getD .zero
        memo := r.memo })

/- What is paid, as far as the rows can be understood. -/
def payment (c : Composition) : Payment where
  network := c.network
  outputs := c.outputs
  fee := c.fee
  scope := c.scope

/- The fingerprint of what is paid. -/
def fingerprint (c : Composition) : String :=
  c.payment.fingerprint

/- The issues of the rows in order. -/
def rowIssues (c : Composition) : List Issue :=
  c.outcome.faults.zipIdx.filterMap
    (fun entry => entry.1.map (fun fault => ⟨some entry.2, fault⟩))

/- Everything that keeps a composition from being paid. -/
def problems (c : Composition) : Problems where
  issues :=
    (if c.rows = [] then [⟨none, .noRecipients⟩] else [])
      ++ c.rowIssues
      ++ (if c.outcome.totals.overflow then
            [⟨none, .totalTooLarge⟩]
          else
            [])
  shortfall := c.outcome.shortfall

/- The request for a composition without problems. -/
def validate (c : Composition) : Except Problems Request :=
  if c.problems.IsEmpty then
    .ok ⟨c.payment, c.outcome.totals.out, c.fingerprint⟩
  else
    .error c.problems

end Composition

end Remit
