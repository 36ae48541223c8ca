import Remit.Recipient

/-
  This file defines the rows of an imported file.

  Key definitions include:
    * `ImportRow`
    * `ImportRow.toRecipient`
-/

namespace Remit

/- A row of a file, numbered from one. -/
structure ImportRow where
  number : Nat
  address : String
  amount : String
  memo : Option String
  label : Option String
deriving DecidableEq, Repr

/- The row as it is entered into a payment. -/
def ImportRow.toRecipient (r : ImportRow) : Recipient where
  address := r.address
  amountText := r.amount
  memo := r.memo.map Memo.ofText
  label := r.label

end Remit
