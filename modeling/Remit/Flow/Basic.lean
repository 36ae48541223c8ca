import Remit.Composition.View
import Remit.Engine.Call

/-
  This file defines the flow of a payment through its stages.
  An action either ends at once or waits for replies of the
  wallet engine; everything that changes is published to those
  who subscribed.

  Key definitions include:
    * `Snapshot`
    * `Flow`
    * `Change`
    * `Action`
    * `Verdict`
    * `Progress`
    * `Flow.perform`
-/

namespace Remit

------------------------------------------------------------
-- Flows
------------------------------------------------------------

/- What subscribers see of a flow. -/
structure Snapshot where
  stage : Stage
  composition : CompositionView
  draft : Option Draft
  txid : Option String
  lastError : Option Notice
deriving DecidableEq, Repr

/-
  A payment on its way: the composition, the stage, the draft
  that is held, the identifier of what was broadcast, the last
  failure, and the funding sources as last listed. The snapshots
  that were published stand latest first; there are none unless
  somebody subscribed.
-/
structure Flow where
  composition : Composition
  stage : Stage
  draft : Option Draft
  txid : Option String
  lastError : Option Notice
  sources : Option (List Source)
  published : List Snapshot
deriving DecidableEq, Repr

/- A change of the composition that goes through a flow. -/
inductive Change where
| enter (entry : Entry)
| scope (scope : Scope)
| toggle (id : Int64)
deriving DecidableEq, Repr

/- What can be asked of a flow. -/
inductive Action where
| start
| cancel
| change (change : Change)
| review
| edit
| confirm
| retry
| refreshBounds
| refreshBalances
deriving DecidableEq, Repr

/- How an action ended. -/
inductive Verdict where
| done
| sent (txid : String)
| refreshed (ok : Bool)
| refused (cause : SendError)
deriving DecidableEq, Repr

/- An action that has ended, or one that waits for a reply. -/
inductive Progress where
| ended (flow : Flow) (verdict : Verdict)
| waiting
    (flow : Flow)
    (call : EngineCall)
    (resume : call.Reply → Progress)

namespace Flow

/- The start of a flow, which nobody has subscribed to. -/
def new (config : Config) : Flow where
  composition := Composition.new config
  stage := .idle
  draft := none
  txid := none
  lastError := none
  sources := none
  published := []

/- What subscribers are to see. -/
def snapshot (f : Flow) : Snapshot where
  stage := f.stage
  composition := f.composition.view
  draft := f.draft
  txid := f.txid
  lastError := f.lastError

/- The first subscriber sees the flow as it is. -/
def subscribe (f : Flow) : Flow :=
  if f.published = [] then
    { f with published := [f.snapshot] }
  else
    f

/- Show the flow to those who subscribed. -/
def publish (f : Flow) : Flow :=
  if f.published = [] then
    f
  else
    { f with published := f.snapshot :: f.published }

------------------------------------------------------------
-- Parts of Actions
------------------------------------------------------------

/- The failure of an action at the wrong stage. -/
def notPermitted (f : Flow) (action : String) : SendError :=
  .stage (.notPermitted action f.stage)

/- Go on to another stage, if there is a step to it. -/
def moveTo? (f : Flow) (target : Stage) : Except SendError Flow :=
  if Stage.Leads f.stage target then
    .ok { f with stage := target }.publish
  else
    .error (.stage (.noStep f.stage target))

/- Go on to another stage as the end of an action. -/
def endAt (f : Flow) (target : Stage) (verdict : Verdict) : Progress :=
  match f.moveTo? target with
  | .ok g => .ended g verdict
  | .error e => .ended f (.refused e)

/- Note a failure. -/
def failing (f : Flow) (e : SendError) : Flow :=
  { f with lastError := some e.notice }

/- Note a failure, show it, and end the action with it. -/
def record (f : Flow) (e : SendError) : Progress :=
  .ended (f.failing e).publish (.refused e)

/- Let go of the draft. -/
def discard (f : Flow) : Flow :=
  { f with draft := none }

/- Forget the last failure. -/
def forget (f : Flow) : Flow :=
  { f with lastError := none }

------------------------------------------------------------
-- Start, Cancel, Edit, Retry
------------------------------------------------------------

/- Make room for another payment once one is complete. -/
def renew (f : Flow) : Flow :=
  if f.stage = .complete then
    { f.discard with
      composition := f.composition.cleared
      txid := none }
  else
    f

/- Make sure that there is a row. -/
def firstRow? (f : Flow) : Except SendError Flow :=
  if f.composition.rows = [] then
    match f.composition.enter (.add Recipient.blank) with
    | .ok c => .ok { f with composition := c }
    | .error e => .error e
  else
    .ok f

/- Begin to compose a payment. -/
def start (f : Flow) : Progress :=
  if f.stage ∈ [.idle, .complete] then
    let g := f.renew.forget
    match g.firstRow? with
    | .ok h => h.endAt .composing .done
    | .error e => .ended g (.refused e)
  else
    .ended f (.refused (f.notPermitted "start"))

/- Give up the payment that is composed. -/
def cancel (f : Flow) : Progress :=
  if f.stage = .composing then
    { f with composition := f.composition.cleared }.forget.endAt
      .idle .done
  else
    .ended f (.refused (f.notPermitted "cancel"))

/- Go back from the review to the composition. -/
def edit (f : Flow) : Progress :=
  if f.stage = .reviewing then
    f.discard.endAt .composing .done
  else
    .ended f (.refused (f.notPermitted "edit"))

/- Go back to the composition after a failure. -/
def retry (f : Flow) : Progress :=
  if f.stage = .failed then
    f.discard.forget.endAt .composing .done
  else
    .ended f (.refused (f.notPermitted "retry"))

------------------------------------------------------------
-- Changes
------------------------------------------------------------

/-
  Choose which funds may be spent. Once the sources are known,
  the choice is resolved against them.
-/
def selectScope (f : Flow) (scope : Scope) : Except SendError Flow :=
  if scope = .addresses IdSet.empty then
    .error (.scope .emptySelection)
  else
    match f.sources with
    | none =>
        .ok { f with composition := f.composition.setScope scope }
    | some sources =>
        let resolved := scope.resolve sources
        .ok
          { f with
            composition :=
              (f.composition.setScope resolved.scope).setBalance
                resolved.balance }

/- The flow with its composition changed. -/
def changed (f : Flow) : Change → Except SendError Flow
| .enter entry =>
    match f.composition.enter entry with
    | .ok c => .ok { f with composition := c }
    | .error e => .error e
| .scope scope => f.selectScope scope
| .toggle id => f.selectScope (f.composition.scope.toggle id)

/-
  Change the composition. A draft is let go of, and a review
  goes back to the composition.
-/
def change (f : Flow) (c : Change) : Progress :=
  if f.stage ∈ [.composing, .reviewing] then
    match f.changed c with
    | .error e => f.record e
    | .ok g =>
        if g.stage = .reviewing then
          g.discard.endAt .composing .done
        else
          .ended g.discard.publish .done
  else
    .ended f (.refused (f.notPermitted "change"))

------------------------------------------------------------
-- Review
------------------------------------------------------------

/- What follows when the engine has built, or failed to. -/
def built (f : Flow) (r : Request) :
    Except EngineError Draft → Progress
| .ok draft =>
    { f with draft := some (draft.stamped r.fingerprint) }.endAt
      .reviewing .done
| .error cause =>
    (f.failing (.engine cause)).endAt .composing
      (.refused (.engine cause))

/- Ask the engine to build the payment that is composed. -/
def review (f : Flow) : Progress :=
  if f.stage = .composing then
    match f.composition.validate with
    | .error ps => f.record (.problems ps)
    | .ok r =>
        match f.forget.moveTo? .building with
        | .error e => .ended f.forget (.refused e)
        | .ok g =>
            .waiting g
              (.build r.payment.outputs r.payment.scope r.payment.fee)
              (fun reply => g.built r reply)
  else
    .ended f (.refused (f.notPermitted "review"))

------------------------------------------------------------
-- Confirm
------------------------------------------------------------

/- A payment fails while it is signed or broadcast. -/
def fail (f : Flow) (cause : EngineError) : Progress :=
  (f.failing (.engine cause)).endAt .failed (.refused (.engine cause))

/- What follows when the engine has broadcast, or failed to. -/
def sent (f : Flow) : Except EngineError String → Progress
| .ok txid => { f with txid := some txid }.endAt .complete (.sent txid)
| .error cause => f.fail cause

/- What follows when the engine has signed, or failed to. -/
def signed (f : Flow) : Except EngineError Signed → Progress
| .ok s =>
    match f.moveTo? .broadcasting with
    | .error e => .ended f (.refused e)
    | .ok g => .waiting g (.broadcast s) (fun reply => g.sent reply)
| .error cause => f.fail cause

/- Sign and broadcast the draft that was reviewed. -/
def confirm (f : Flow) : Progress :=
  if f.stage = .reviewing then
    match f.draft with
    | none => .ended f (.refused (.stage .noDraft))
    | some draft =>
        if draft.Matches f.composition.fingerprint then
          match f.moveTo? .signing with
          | .error e => .ended f (.refused e)
          | .ok g =>
              .waiting g (.sign draft f.composition.scope)
                (fun reply => g.signed reply)
        else
          .ended f (.refused (.stage .staleDraft))
  else
    .ended f (.refused (f.notPermitted "confirm"))

------------------------------------------------------------
-- Refreshing
------------------------------------------------------------

/- The draft no longer fits the composition or the balance. -/
def IsStale (f : Flow) : Prop :=
  ¬ (∃ draft ∈ f.draft, draft.Matches f.composition.fingerprint)
    ∨ ¬ f.composition.problems.IsEmpty

instance (f : Flow) : Decidable f.IsStale :=
  match h : f.draft with
  | none => isTrue (Or.inl (by simp [h]))
  | some draft =>
      if hs : draft.Matches f.composition.fingerprint ∧
          f.composition.problems.IsEmpty then
        isFalse (by simp [IsStale, h, hs.1, hs.2])
      else
        isTrue (by
          simp only [IsStale, h, Option.mem_def, Option.some.injEq,
            exists_eq_left']
          exact Decidable.not_and_iff_not_or_not.mp hs)

/- Go back to the composition from the review of a stale draft. -/
def dropStale (f : Flow) : Flow :=
  if f.stage = .reviewing ∧ f.IsStale then
    match f.discard.moveTo? .composing with
    | .ok g => g
    | .error _ => f.discard
  else
    f

/- Show what was refreshed. -/
def refreshed (f : Flow) : Progress :=
  .ended f.dropStale.publish (.refreshed true)

/- Ask the engine for the bounds of the fee. -/
def refreshBounds (f : Flow) : Progress :=
  .waiting f .bounds (fun reply : Except EngineError FeeBounds =>
    match reply with
    | .ok bounds =>
        { f with
          composition := f.composition.setBounds bounds }.refreshed
    | .error _ => .ended f (.refreshed false))

/-
  Take over listed sources: the scope is resolved against them,
  and changed if it does not stand.
-/
def listed (f : Flow) (sources : List Source) : Flow :=
  let resolved := f.composition.scope.resolve sources
  { f with
    composition :=
      if resolved.demoted then
        f.composition.setScope resolved.scope
      else
        f.composition
    sources := some sources }

/-
  Ask the engine for the funding sources, and then for the
  balance; the totals of the sources stand in for a balance that
  cannot be had.
-/
def refreshBalances (f : Flow) : Progress :=
  .waiting f .sources (fun reply : Except EngineError (List Source) =>
    match reply with
    | .error _ => .ended f (.refreshed false)
    | .ok sources =>
        let resolved := f.composition.scope.resolve sources
        let g := f.listed sources
        .waiting g (.balance resolved.scope)
          (fun reply : Except EngineError Balance =>
            let balance :=
              match reply with
              | .ok balance => balance
              | .error _ => resolved.balance
            { g with
              composition := g.composition.setBalance balance }.refreshed))

------------------------------------------------------------
-- Actions
------------------------------------------------------------

/- Perform an action, as far as it goes without a reply. -/
def perform (f : Flow) : Action → Progress
| .start => f.start
| .cancel => f.cancel
| .change c => f.change c
| .review => f.review
| .edit => f.edit
| .confirm => f.confirm
| .retry => f.retry
| .refreshBounds => f.refreshBounds
| .refreshBalances => f.refreshBalances

end Flow

namespace Progress

/- The flow as it is while an action is performed. -/
def flow : Progress → Flow
| ended flow _ => flow
| waiting flow _ _ => flow

/- Let an engine reply to every call until the action ends. -/
def run {σ : Type} (engine : Engine σ) : Progress → σ → Flow × Verdict × σ
| ended flow verdict, s => (flow, verdict, s)
| waiting _ call resume, s =>
    let s := engine.note call s
    (resume (engine.reply call s)).run engine s

end Progress

end Remit
