import Remit.Address
import Remit.Amount.Basic
import Remit.Memo

/-
  This file defines what can be wrong with the rows of a
  payment, and with the list of rows as a whole.

  Key definitions include:
    * `Field`
    * `Fault`
    * `Fault.field`
    * `Fault.taxonomy`
    * `Fault.message`
-/

namespace Remit

/- The part of a payment that a fault is about. -/
inductive Field where
| address
| amount
| memo
| recipients
deriving DecidableEq, Repr

/- The name of a part. -/
def Field.name : Field → String
| address => "address"
| amount => "amount"
| memo => "memo"
| recipients => "recipients"

/- What is wrong with a row, or with the list of rows. -/
inductive Fault where
| addressRequired
| badAddress (cause : AddressError)
| amountRequired
| badAmount (cause : AmountError)
| amountZero
| memoTooLong (length : Nat) (most : Nat)
| memoInvalid
| noRecipients
| tooManyRecipients (most : Nat)
| totalTooLarge
deriving DecidableEq, Repr

namespace Fault

/- The part that a fault is about. -/
def field : Fault → Field
| addressRequired => .address
| badAddress _ => .address
| amountRequired => .amount
| badAmount _ => .amount
| amountZero => .amount
| memoTooLong _ _ => .memo
| memoInvalid => .memo
| noRecipients => .recipients
| tooManyRecipients _ => .recipients
| totalTooLarge => .recipients

/- The entry of a fault in the catalogue. -/
def taxonomy : Fault → Taxonomy
| addressRequired => .invalidAddress
| badAddress (.network _) => .networkMismatch
| badAddress _ => .invalidAddress
| amountRequired => .invalidAmount
| badAmount cause => cause.taxonomy
| amountZero => .invalidAmount
| memoTooLong _ _ => .memoTooLong
| memoInvalid => .memoInvalid
| noRecipients => .noRecipients
| tooManyRecipients _ => .recipientCapacity
| totalTooLarge => .amountOutOfRange

/- The wording of a fault. -/
def message : Fault → String
| addressRequired => "Address is required"
| badAddress cause => "Invalid address: " ++ cause.message
| amountRequired => "Amount is required"
| badAmount cause => "Invalid amount: " ++ cause.message
| amountZero => "Amount must be greater than zero"
| memoTooLong length most =>
    s!"Memo is {length} bytes, maximum is {most} bytes"
| memoInvalid => "Memo contains control characters"
| noRecipients => "At least one recipient is required"
| tooManyRecipients most => s!"Cannot add more than {most} recipients"
| totalTooLarge => "Payment total exceeds the maximum supply"

/- The fault of a memo that cannot be sent. -/
def ofMemoError : MemoError → Fault
| .tooLong length most => memoTooLong length most
| .controlCharacters => memoInvalid

end Fault

end Remit
