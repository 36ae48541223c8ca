import Remit.SendError
import Remit.Stored.Payment

/-
  This file defines the state of a wallet as a file holds it.

  Key definitions include:
    * `Wallet`
    * `Wallet.ofTree?`
    * `Wallet.load`
-/

namespace Remit

open Json

/-
  The network if it is told, the bounds of the fee, the funding
  sources, the height up to which drafts are good, and the time
  that is put on them.
-/
structure Wallet where
  network : Option Network
  bounds : FeeBounds
  sources : List Source
  expiryHeight : Nat
  asOf : Option Time
deriving DecidableEq, Repr

namespace Wallet

/- The fields of a stored wallet. -/
def fields : List String :=
  ["network", "fee_info", "sources", "expiry_height", "as_of"]

/- A wallet as it is stored. -/
def toValue (w : Wallet) : Value :=
  .record
    [("network", Value.nullable Network.toValue w.network),
     ("fee_info", w.bounds.toValue),
     ("sources", Value.ofList Source.toValue w.sources),
     ("expiry_height", .natural w.expiryHeight),
     ("as_of", Value.nullable (fun t => .text (Time.text t)) w.asOf)]

/- Read a wallet; all but the sources may be left out. -/
def ofTree? (t : Tree) : Option Wallet := do
  let r ← t.record? fields
  let network ←
    r.defaulted? "network" none (Tree.nullable? Network.ofTree?)
  let bounds ←
    r.defaulted? "fee_info" FeeBounds.fallback FeeBounds.ofTree?
  let sources ← r.required? "sources" (Tree.mapList? Source.ofTree?)
  let expiryHeight ←
    r.defaulted? "expiry_height" 0 (Tree.natural? smallWordMax)
  let asOf ←
    r.defaulted? "as_of" none
      (Tree.nullable? (fun t => t.text?.bind Time.ofText?))
  some ⟨network, bounds, sources, expiryHeight, asOf⟩

/- The most bytes of a wallet file. -/
def mostBytes : Nat :=
  1024 * 1024

/- The wallet that a file holds, if it is one for the network. -/
def load (file : String) (contents : Bytes) (n : Network) :
    Except SendError Wallet :=
  let size := contents.length
  if mostBytes < size then
    .error (.wallet (.tooLarge file size mostBytes))
  else
    match (Document.ofBytes? contents).bind (fun d => ofTree? d.tree) with
    | none => .error .json
    | some w =>
        match w.network with
        | none => .ok w
        | some found =>
            if found = n then
              .ok w
            else
              .error (.wallet (.otherNetwork found n))

end Wallet

end Remit
