import Remit.Proofs.Flow.Publishing

/-
  This file defines the events that the state of a flow hangs
  on: those that a draft stems from or is used up by, those that
  settle the identifier of what was broadcast, and the replies
  that a payment can fail with. The latest of each is all that a
  flow remembers of its log.

  Key definitions include:
    * `Flow.Event.touchesDraft`
    * `Flow.Event.settlesTxid`
    * `Flow.Event.repliesToSend`
    * `Flow.Log.Agrees`
    * `Flow.Log.calls`
    * `Flow.Log.payments`

  Key theorems include:
    * `Flow.Log.agrees_shown`
    * `Flow.Log.calls_eq_append`
-/

namespace Remit

namespace Flow

------------------------------------------------------------
-- Kinds of Events
------------------------------------------------------------

namespace Event

/-
  Calls and replies that a draft is built, signed or broadcast
  with, and whatever makes a draft that was built obsolete: a
  change that was taken, or going back from the review.
-/
def touchesDraft : Event → Bool
| called (.build _ _ _) => true
| called (.sign _ _) => true
| called (.broadcast _) => true
| replied (.build _ _ _) _ => true
| ended (.change _) .done => true
| ended .edit .done => true
| _ => false

/- Replies to a broadcast, and the start of another payment. -/
def settlesTxid : Event → Bool
| replied (.broadcast _) _ => true
| ended .start .done => true
| _ => false

/- Replies to the calls that a payment is sent with. -/
def repliesToSend : Event → Bool
| replied (.sign _ _) _ => true
| replied (.broadcast _) _ => true
| _ => false

end Event

------------------------------------------------------------
-- Logs That Agree
------------------------------------------------------------

namespace Log

/- Two logs end with the same events of each of these kinds. -/
structure Agrees (log : Log) (log' : Log) : Prop where
  draft : log.find? Event.touchesDraft = log'.find? Event.touchesDraft
  txid : log.find? Event.settlesTxid = log'.find? Event.settlesTxid
  send :
    log.find? Event.repliesToSend = log'.find? Event.repliesToSend

/- The latest event of a kind is found in the same way. -/
private theorem find?_cons_congr
    {log log' : Log}
    {p : Event → Bool}
    (e : Event)
    (h : log.find? p = log'.find? p) :
    (e :: log).find? p = (e :: log').find? p := by
  rw [List.find?_cons, List.find?_cons, h]

/- Logs that agree still do so after the same event. -/
theorem Agrees.cons
    {log log' : Log}
    (e : Event)
    (h : log.Agrees log') :
    Log.Agrees (e :: log) (e :: log') where
  draft := find?_cons_congr e h.draft
  txid := find?_cons_congr e h.txid
  send := find?_cons_congr e h.send

/- Snapshots are of none of these kinds. -/
theorem agrees_shown
    (ss : List Snapshot)
    (log : Log) :
    Log.Agrees (ss.map Event.shown ++ log) log := by
  induction ss with
  | nil => exact ⟨rfl, rfl, rfl⟩
  | cons s ss ih => exact ⟨ih.draft, ih.txid, ih.send⟩

end Log

------------------------------------------------------------
-- Calls and Payments
------------------------------------------------------------

/- What was marked of a log was marked of one of its events. -/
theorem Log.filterMap_eq_append
    {α : Type}
    {mark? : Event → Option α}
    {log : Log}
    {later earlier : List α}
    {x : α}
    (h : log.filterMap mark? = later ++ x :: earlier) :
    ∃ (after : Log) (e : Event) (before : Log),
      log = after ++ e :: before ∧
        mark? e = some x ∧
        before.filterMap mark? = earlier := by
  rcases List.filterMap_eq_append_iff.mp h with
    ⟨after, rest, rfl, _, hRest⟩
  rcases List.filterMap_eq_cons_iff.mp hRest with
    ⟨between, e, before, rfl, _, hMark, hBefore⟩
  refine ⟨after ++ between, e, before, ?_, hMark, hBefore⟩
  rw [List.append_assoc]

/- The call that an event makes. -/
def Event.call? : Event → Option EngineCall
| called call => some call
| _ => none

/- All that the engine was called for, the latest first. -/
def Log.calls (log : Log) : List EngineCall :=
  log.filterMap Event.call?

/- Snapshots call for nothing. -/
theorem Log.calls_show
    (log : Log)
    (f g : Flow) :
    (log.show f g).calls = log.calls := by
  unfold Log.show
  induction g.shownSince f with
  | nil => rfl
  | cons s ss ih => exact ih

/- A call was made after those that were made before. -/
theorem Log.calls_eq_append
    {log : Log}
    {later earlier : List EngineCall}
    {call : EngineCall}
    (h : log.calls = later ++ call :: earlier) :
    ∃ after before : Log,
      log = after ++ .called call :: before ∧
        before.calls = earlier := by
  rcases Log.filterMap_eq_append h with
    ⟨after, e, before, hLog, hCall, hBefore⟩
  cases e with
  | called c =>
      cases hCall
      exact ⟨after, before, hLog, hBefore⟩
  | _ => cases hCall

/- Of two calls the later one was made after the earlier one. -/
theorem Log.calls_eq_append_append
    {log : Log}
    (later between : List EngineCall)
    {earlier : List EngineCall}
    {call call' : EngineCall}
    (h : log.calls = later ++ call :: (between ++ call' :: earlier)) :
    ∃ after middle before : Log,
      log =
        after ++ .called call :: (middle ++ .called call' :: before) := by
  rcases Log.calls_eq_append h with ⟨after, rest, rfl, hRest⟩
  rcases Log.calls_eq_append hRest with ⟨middle, before, rfl, _⟩
  exact ⟨after, middle, before, rfl⟩

/- What the engine was asked to build on a network. -/
def Event.payment? (network : Network) : Event → Option Payment
| called (.build outputs scope fee) =>
    some ⟨network, outputs, fee, scope⟩
| _ => none

/- All that the engine was asked to build, the latest first. -/
def Log.payments (network : Network) (log : Log) : List Payment :=
  log.filterMap (Event.payment? network)

/- The calls of a log tell what the engine was asked to build. -/
theorem Log.payments_eq
    (network : Network)
    (log : Log) :
    log.payments network =
      log.calls.filterMap
        (fun call => Event.payment? network (.called call)) := by
  have hEvents :
      Event.payment? network =
        fun e =>
          e.call?.bind
            (fun call => Event.payment? network (.called call)) := by
    funext e
    cases e <;> rfl
  unfold Log.payments Log.calls
  rw [List.filterMap_filterMap, ← hEvents]

end Flow

end Remit
