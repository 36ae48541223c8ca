import Remit.Amount.Decimal
import Remit.Engine.Call

/-
  This file defines an engine for rehearsing flows: it replies
  from a script, fails when it is told to, keeps calls waiting
  behind gates, and counts them.

  Key definitions include:
    * `Rehearsal`
    * `Rehearsal.build`
    * `Rehearsal.reply`
    * `Rehearsal.engine`
-/

namespace Remit

/-
  What the engine has, the failure set for each kind of call,
  the closed gates, how often each kind was called, and the
  scope that each was last called with.
-/
structure Rehearsal where
  bounds : FeeBounds
  sources : List Source
  failure : CallKind → Option EngineError
  closed : List CallKind
  count : CallKind → Nat
  scope : CallKind → Option Scope

namespace Rehearsal

/- A script with bounds and sources, and nothing else set. -/
def new (bounds : FeeBounds) (sources : List Source) : Rehearsal where
  bounds := bounds
  sources := sources
  failure _ := none
  closed := []
  count _ := 0
  scope _ := none

/- Set or clear the failure of a kind of call. -/
def setFailure
    (r : Rehearsal)
    (kind : CallKind)
    (failure : Option EngineError) : Rehearsal :=
  { r with
    failure := fun k => if k = kind then failure else r.failure k }

/- A call is counted, and its scope is kept. -/
def note (call : EngineCall) (r : Rehearsal) : Rehearsal :=
  let kind := call.kind
  { r with
    count := fun k => if k = kind then r.count k + 1 else r.count k
    scope := fun k =>
      if k = kind then call.scope?.or (r.scope k) else r.scope k }

/- The height up to which drafts are good. -/
def expiryHeight : Nat :=
  2500040

/-
  A draft of the outputs, paid from all that is in scope, and
  identified by the number of builds.
-/
def build
    (r : Rehearsal)
    (outputs : List Output)
    (scope : Scope)
    (fee : Amount) : Except EngineError Draft :=
  match Amount.sum (outputs.map Output.amount) with
  | .error cause => .error ⟨.unknown, cause.message⟩
  | .ok total =>
      let inputs := (scope.resolve r.sources).balance.spendable
      .ok
        { id := BitVec.ofNat 128 (r.count .build)
          outputs := outputs
          fee := fee
          totalAmount := total
          change := (inputs.subFloored total).subFloored fee
          inputTotal := inputs
          numInputs := 1
          expiryHeight := expiryHeight
          createdAt := Time.epoch
          fingerprint := none }

/- The transaction that signing a draft gives. -/
def sign (draft : Draft) : Signed where
  txid := "tx-" ++ DraftId.plainText draft.id
  raw := []

/- The reply to a call that does not fail. -/
def answer (r : Rehearsal) : (call : EngineCall) → call.Reply
| .bounds => .ok r.bounds
| .sources => .ok r.sources
| .balance scope => .ok (scope.resolve r.sources).balance
| .build outputs scope fee => r.build outputs scope fee
| .sign draft _ => .ok (sign draft)
| .broadcast signed => .ok signed.txid

/- The reply to a call. -/
def reply (call : EngineCall) (r : Rehearsal) : call.Reply :=
  match r.failure call.kind with
  | some cause => .error cause
  | none => r.answer call

/- The engine that rehearses. -/
def engine : Engine Rehearsal where
  note := note
  isReady call r := ¬ call.kind ∈ r.closed
  reply := reply

end Rehearsal

end Remit
