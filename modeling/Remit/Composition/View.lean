import Remit.Composition.Basic

/-
  This file defines what is shown of a composition.

  Key definitions include:
    * `RowView`
    * `CompositionView`
    * `Composition.view`
-/

namespace Remit

/- What is shown of a row. -/
structure RowView where
  row : Nat
  address : String
  amount : String
  label : Option String
  memo : Option String
  memoBytes : Nat
  memoRemaining : Nat
  fault : Option Fault
deriving DecidableEq, Repr

/- What is shown of a composition. -/
structure CompositionView where
  network : Network
  rows : List RowView
  maxRecipients : Nat
  fee : FeeSelection
  scope : Scope
  balance : Balance
  amountTotal : Amount
  totalOut : Amount
  shortfall : Option String
  warnings : List Warning
deriving DecidableEq, Repr

/- What is shown of a row with its number and its fault. -/
def RowView.ofRecipient
    (r : Recipient)
    (row : Nat)
    (fault : Option Fault) : RowView where
  row := row
  address := r.address
  amount := r.amountText
  label := r.label
  memo := r.memo.bind Memo.text?
  memoBytes := (r.memo.map Memo.size).getD 0
  memoRemaining := (r.memo.map Memo.remaining).getD Memo.mostBytes
  fault := fault

namespace Composition

/- What is shown of the rows. -/
def rowViews (c : Composition) : List RowView :=
  (c.rows.zip c.outcome.faults).zipIdx.map
    (fun entry => RowView.ofRecipient entry.1.1 entry.2 entry.1.2)

/- What is shown of a composition. -/
def view (c : Composition) : CompositionView where
  network := c.network
  rows := c.rowViews
  maxRecipients := c.inputs.config.maxRecipients
  fee := c.outcome.fee
  scope := c.scope
  balance := c.balance
  amountTotal := c.outcome.totals.amount
  totalOut := c.outcome.totals.out
  shortfall := c.outcome.shortfall.map Shortfall.message
  warnings := c.outcome.warnings

end Composition

end Remit
