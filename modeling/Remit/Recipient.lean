import Remit.Amount.Decimal
import Remit.Fault

/-
  This file defines the rows of a payment as they were entered,
  and the first thing that is wrong with one.

  Key definitions include:
    * `Recipient`
    * `Recipient.amount?`
    * `Recipient.fault?`
    * `Recipient.IsValid`
-/

namespace Remit

/- One row: whom to pay, how much, and what to say with it. -/
structure Recipient where
  address : String
  amountText : String
  memo : Option Memo
  label : Option String
deriving DecidableEq, Repr

namespace Recipient

/- A row with nothing in it. -/
def blank : Recipient where
  address := ""
  amountText := ""
  memo := none
  label := none

/- The amount that was entered, if it is one. -/
def amount? (r : Recipient) : Option Amount :=
  (Amount.ofText r.amountText).toOption

/- What is wrong with the address of a row. -/
def addressFault? (n : Network) (r : Recipient) : Option Fault :=
  match Address.check n r.address with
  | .ok _ => none
  | .error .empty => some .addressRequired
  | .error cause => some (.badAddress cause)

/- What is wrong with the amount of a row. -/
def amountFault? (r : Recipient) : Option Fault :=
  if Text.AllBlank r.amountText then
    some .amountRequired
  else
    match Amount.ofText r.amountText with
    | .ok a => if a.IsZero then some .amountZero else none
    | .error cause => some (.badAmount cause)

/- What is wrong with the memo of a row. -/
def memoFault? (r : Recipient) : Option Fault :=
  match r.memo with
  | none => none
  | some m =>
      match m.check with
      | .ok _ => none
      | .error cause => some (Fault.ofMemoError cause)

/- What is wrong first: the address, then the amount, then the memo. -/
def fault? (n : Network) (r : Recipient) : Option Fault :=
  ((r.addressFault? n).or r.amountFault?).or r.memoFault?

/- A row is valid when nothing is wrong with it. -/
def IsValid (n : Network) (r : Recipient) : Prop :=
  r.fault? n = none

instance (n : Network) (r : Recipient) : Decidable (r.IsValid n) := by
  unfold IsValid
  infer_instance

end Recipient

end Remit
