import Remit.Engine.Call
import Remit.Wallet.Basic

/-
  This file defines the engine of a wallet file. It builds
  drafts from the funding sources in the file; it can neither
  sign nor broadcast.

  Key definitions include:
    * `Wallet.candidates`
    * `Wallet.selectInputs`
    * `Wallet.draftId`
    * `Wallet.build`
    * `Wallet.engine`
-/

namespace Remit.Wallet

------------------------------------------------------------
-- Choosing Inputs
------------------------------------------------------------

/- A source that is used before another, or may be. -/
def precedes (a : Source) (b : Source) : Bool :=
  decide
    (b.spendable < a.spendable ∨
      (a.spendable = b.spendable ∧ a.addressId ≤ b.addressId))

/- The sources with funds that may be spent, the largest first. -/
def candidates (w : Wallet) (scope : Scope) : List Source :=
  (w.sources.filter
    (fun s => scope.Includes s ∧ ¬ s.spendable.IsZero)).mergeSort
      precedes

/- The inputs chosen so far: their total and their number. -/
structure Chosen where
  total : Amount
  count : Nat
deriving DecidableEq, Repr

/- Choose sources in order until they cover what is required. -/
def choose (required : Amount) : Chosen → List Source → Chosen
| chosen, [] => chosen
| chosen, s :: rest =>
    if required ≤ chosen.total then
      chosen
    else
      choose required
        ⟨chosen.total.addCapped s.spendable, chosen.count + 1⟩
        rest

/- The failure when the funds in scope do not suffice. -/
def tooLittle
    (scope : Scope)
    (required : Amount)
    (total : Amount) : EngineError :=
  let found := Numeral.ofNat total.units
  ⟨.insufficientFunds,
    "insufficient funds in scope " ++ scope.text ++ ": need "
      ++ Numeral.ofNat required.units ++ ", have " ++ found⟩

/- The inputs that cover what is required. -/
def selectInputs (w : Wallet) (scope : Scope) (required : Amount) :
    Except EngineError Chosen :=
  let chosen := choose required ⟨.zero, 0⟩ (w.candidates scope)
  if required ≤ chosen.total then
    .ok chosen
  else
    .error (tooLittle scope required chosen.total)

------------------------------------------------------------
-- Building Drafts
------------------------------------------------------------

/- The text whose digest identifies a draft. -/
def draftText
    (outputs : List Output)
    (scope : Scope)
    (fee : Amount) : String :=
  "scope=" ++ scope.text ++ "\nfee=" ++ Numeral.ofNat fee.units ++ "\n"
    ++ String.join (outputs.map (fun o => o.text ++ "\n"))

/- Equal outputs, scope and fee have an equal identifier. -/
def draftId
    (outputs : List Output)
    (scope : Scope)
    (fee : Amount) : DraftId :=
  DraftId.ofDigest
    (Sha256.digest (Utf8.encode (draftText outputs scope fee)))

/- A sum as an engine works it out. -/
def summed (a : Except AmountError Amount) : Except EngineError Amount :=
  a.mapError (fun cause => ⟨.unknown, cause.message⟩)

/- Build a draft; without a time in the file it gets the present one. -/
def build
    (w : Wallet)
    (now : Time)
    (outputs : List Output)
    (scope : Scope)
    (fee : Amount) : Except EngineError Draft := do
  let totalAmount ← summed (Amount.sum (outputs.map Output.amount))
  let required ← summed (totalAmount.add fee)
  let chosen ← w.selectInputs scope required
  return {
    id := draftId outputs scope fee
    outputs := outputs
    fee := fee
    totalAmount := totalAmount
    change := chosen.total.subFloored required
    inputTotal := chosen.total
    numInputs := chosen.count
    expiryHeight := w.expiryHeight
    createdAt := w.asOf.getD now
    fingerprint := none }

------------------------------------------------------------
-- The Engine
------------------------------------------------------------

/- The failure to sign. -/
def noKeys : EngineError :=
  ⟨.unknown, "offline wallet snapshot holds no spending keys"⟩

/- The failure to broadcast. -/
def noConnection : EngineError :=
  ⟨.network, "offline wallet snapshot has no network connection"⟩

/- The reply to a call. -/
def reply (w : Wallet) (now : Time) : (call : EngineCall) → call.Reply
| .bounds => .ok w.bounds
| .sources => .ok w.sources
| .balance scope => .ok (scope.resolve w.sources).balance
| .build outputs scope fee => w.build now outputs scope fee
| .sign _ _ => .error noKeys
| .broadcast _ => .error noConnection

/- The engine of a wallet file. -/
def engine (w : Wallet) (now : Time) : Engine Unit where
  note _ s := s
  isReady _ _ := true
  reply call _ := w.reply now call

end Remit.Wallet
