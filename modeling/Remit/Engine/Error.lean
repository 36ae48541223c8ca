import Remit.Taxonomy
import Remit.Text.Search

/-
  This file defines the failures of a wallet engine. An engine
  that only words its failures has them sorted by what the
  wording mentions.

  Key definitions include:
    * `EngineError.Kind`
    * `EngineError`
    * `EngineError.classify`
    * `EngineError.userMessage`
-/

namespace Remit

/- The kinds of engine failures. -/
inductive EngineError.Kind where
| network
| rejected
| insufficientFee
| insufficientFunds
| unknown
deriving DecidableEq, Repr

/- A failure of the engine, with the engine's own wording. -/
structure EngineError where
  kind : EngineError.Kind
  detail : String
deriving DecidableEq, Repr

namespace EngineError

namespace Kind

/- Every kind. -/
def all : List Kind :=
  [network, rejected, insufficientFee, insufficientFunds, unknown]

/- The wording of a kind. -/
def text : Kind → String
| network => "network"
| rejected => "rejected by node"
| insufficientFee => "insufficient fee"
| insufficientFunds => "insufficient funds"
| unknown => "unknown"

/- The name of a kind in stored form. -/
def name : Kind → String
| network => "network"
| rejected => "rejected_by_node"
| insufficientFee => "insufficient_fee"
| insufficientFunds => "insufficient_funds"
| unknown => "unknown"

/- The entry of a kind in the catalogue. -/
def taxonomy : Kind → Taxonomy
| network => .engineNetwork
| rejected => .engineRejected
| insufficientFee => .engineInsufficientFee
| insufficientFunds => .engineInsufficientFunds
| unknown => .engineUnknown

/-
  The kind that a wording speaks of, letter case aside. A fee
  that is too low goes before missing funds, and both before any
  other mention of a fee.
-/
def ofWording (s : String) : Kind :=
  let s := Text.lower s
  if Text.Mentions s
      ["fee too low", "insufficient fee", "min relay fee",
       "fee is too low"] then
    insufficientFee
  else if Text.Mentions s ["insufficient", "not enough"] then
    insufficientFunds
  else if Text.Mentions s ["fee"] then
    insufficientFee
  else if Text.Mentions s ["reject", "invalid transaction"] then
    rejected
  else if Text.Mentions s
      ["network", "connect", "timeout", "timed out", "unreachable",
       "unavailable"] then
    network
  else
    unknown

end Kind

/- The failure that a wording speaks of. -/
def classify (detail : String) : EngineError :=
  ⟨Kind.ofWording detail, detail⟩

/- The wording of an engine failure. -/
def message (e : EngineError) : String :=
  e.kind.text ++ ": " ++ e.detail

/- The entry of an engine failure in the catalogue. -/
def taxonomy (e : EngineError) : Taxonomy :=
  e.kind.taxonomy

/- The wording of an engine failure for the person who pays. -/
def userMessage (e : EngineError) : String :=
  match e.kind with
  | .network =>
      "Unable to connect to the network. Please check your "
        ++ "connection and try again."
  | .rejected =>
      "The transaction was rejected by the node: " ++ e.detail
  | .insufficientFee =>
      "The transaction fee is too low. Please increase the fee."
  | .insufficientFunds =>
      "You don't have enough funds for this transaction. Please "
        ++ "check your balance and try again."
  | .unknown => "Transaction failed: " ++ e.detail

end EngineError

end Remit
