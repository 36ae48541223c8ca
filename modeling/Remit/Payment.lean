import Remit.Amount.Basic
import Remit.Bytes.Base64
import Remit.Bytes.Sha256
import Remit.Memo
import Remit.Network
import Remit.Scope.Text

/-
  This file defines what a payment pays, the request for one,
  and the fingerprint that tells requests apart.

  Key definitions include:
    * `Output`
    * `Payment`
    * `Payment.canonicalText`
    * `Payment.fingerprint`
    * `Request`
-/

namespace Remit

------------------------------------------------------------
-- Outputs
------------------------------------------------------------

/- One output: an address, what it is paid, and its memo. -/
structure Output where
  address : String
  amount : Amount
  memo : Option Memo
deriving DecidableEq, Repr

namespace Output

/- The base64 form of the memo, empty when there is none. -/
def memoText (o : Output) : String :=
  match o.memo with
  | some m => m.base64
  | none => ""

/- The parts of an output, separated by bars. -/
def text (o : Output) : String :=
  o.address ++ "|" ++ Numeral.ofNat o.amount.units ++ "|" ++ o.memoText

end Output

------------------------------------------------------------
-- Payments
------------------------------------------------------------

/- What a fingerprint is taken of. -/
structure Payment where
  network : Network
  outputs : List Output
  fee : Amount
  scope : Scope
deriving DecidableEq, Repr

namespace Payment

/- The lines of a payment: network, scope, fee, and each output. -/
def lines (p : Payment) : List String :=
  ["network=" ++ p.network.name,
   "scope=" ++ p.scope.text,
   "fee=" ++ Numeral.ofNat p.fee.units]
    ++ p.outputs.map (fun o => "output=" ++ o.text)

/- The text that stands for a payment, each line ended. -/
def canonicalText (p : Payment) : String :=
  String.join (p.lines.map (fun line => line ++ "\n"))

/- The base64 form of the digest of the canonical text. -/
def fingerprint (p : Payment) : String :=
  Base64.encode (Sha256.digest (Utf8.encode p.canonicalText))

end Payment

------------------------------------------------------------
-- Requests
------------------------------------------------------------

/- A payment that can be built, with its total and fingerprint. -/
structure Request where
  payment : Payment
  totalOut : Amount
  fingerprint : String
deriving DecidableEq, Repr

end Remit
