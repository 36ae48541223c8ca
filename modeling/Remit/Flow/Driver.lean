import Remit.Flow.Basic

/-
  This file defines the driver of a flow: it takes actions from
  a queue and performs them one at a time. While a review or a
  confirmation is under way it looks at the queue at once: a
  review puts most actions off until it has ended, and a
  confirmation drops them.

  Key definitions include:
    * `Driver`
    * `Driver.Step`
    * `Driver.Runs`
    * `Driver.settle`
-/

namespace Remit

/- An action under way, or the flow between two actions. -/
inductive Current where
| resting (flow : Flow)
| working (action : Action) (progress : Progress)

/-
  The actions that wait in the queue and those that were put
  off, each in the order they came; what is under way; whether
  nothing will be sent any more; and whether the driver stopped.
-/
structure Driver where
  queue : List Action
  deferred : List Action
  current : Current
  closed : Bool
  stopped : Bool

namespace Driver

/- The driver of a flow, before anything is sent. -/
def new (f : Flow) : Driver where
  queue := []
  deferred := []
  current := .resting f
  closed := false
  stopped := false

/- The flow as the driver has it. -/
def flow (d : Driver) : Flow :=
  match d.current with
  | .resting f => f
  | .working _ p => p.flow

/- Send an action, which waits in the queue. -/
def send (d : Driver) (a : Action) : Driver :=
  { d with queue := d.queue ++ [a] }

/- Nothing will be sent any more. -/
def close (d : Driver) : Driver :=
  { d with closed := true }

------------------------------------------------------------
-- Taking Actions While One Is Under Way
------------------------------------------------------------

/- A review drops these instead of putting them off. -/
def IsDroppedByReview (a : Action) : Prop :=
  a = .review ∨ a = .confirm

instance (a : Action) : Decidable (IsDroppedByReview a) := by
  unfold IsDroppedByReview
  infer_instance

/- The actions that a review puts off, of those it takes. -/
def putOff (taken : List Action) : List Action :=
  taken.filter (fun a => ¬ IsDroppedByReview a)

/-
  What becomes of actions taken from the queue while another is
  under way; most actions take nothing.
-/
def take? (d : Driver) : Option (Action → Driver) :=
  match d.current with
  | .working .review _ =>
      some (fun a => { d with deferred := d.deferred ++ putOff [a] })
  | .working .confirm _ => some (fun _ => d)
  | _ => none

------------------------------------------------------------
-- Steps
------------------------------------------------------------

/-
  The steps of a driver. Between actions it begins one that was
  put off, or else the first in the queue, or stops when there
  is none and nothing will be sent. While a review or a
  confirmation is under way it may take the first of the queue
  at any time, even when the action is about to end.

  The first part of an action, up to its first call or its end,
  is taken to run in the step that begins it, although the queue
  may be looked at before. That part neither reads nor changes
  the queue, so the same actions are taken in either order.

  The queue is not bounded here. A sender that has to wait for
  room, of which there is for 64 actions, is one that sends
  later, so a bounded queue has no other runs than these.
-/
inductive Step : Driver → Driver → Prop where
| send (d : Driver) (a : Action) (hOpen : d.closed = false) :
    Step d (d.send a)
| close (d : Driver) :
    Step d d.close
| beginDeferred
    (d : Driver)
    (f : Flow)
    (a : Action)
    (rest : List Action)
    (hResting : d.current = .resting f)
    (hDeferred : d.deferred = a :: rest) :
    Step d
      { d with
        deferred := rest
        current := .working a (f.perform a) }
| beginQueued
    (d : Driver)
    (f : Flow)
    (a : Action)
    (rest : List Action)
    (hResting : d.current = .resting f)
    (hDeferred : d.deferred = [])
    (hQueue : d.queue = a :: rest) :
    Step d
      { d with
        queue := rest
        current := .working a (f.perform a) }
| take
    (d : Driver)
    (a : Action)
    (rest : List Action)
    (taken : Action → Driver)
    (hQueue : d.queue = a :: rest)
    (hTake : { d with queue := rest }.take? = some taken) :
    Step d (taken a)
| reply
    (d : Driver)
    (a : Action)
    (f : Flow)
    (call : EngineCall)
    (resume : call.Reply → Progress)
    (answer : call.Reply)
    (hWaiting : d.current = .working a (.waiting f call resume)) :
    Step d { d with current := .working a (resume answer) }
| finish
    (d : Driver)
    (a : Action)
    (f : Flow)
    (verdict : Verdict)
    (hEnded : d.current = .working a (.ended f verdict)) :
    Step d { d with current := .resting f }
| stop
    (d : Driver)
    (f : Flow)
    (hResting : d.current = .resting f)
    (hDeferred : d.deferred = [])
    (hQueue : d.queue = [])
    (hClosed : d.closed = true) :
    Step d { d with stopped := true }

/- Any number of steps. -/
inductive Runs : Driver → Driver → Prop where
| refl (d : Driver) : Runs d d
| step
    {d e g : Driver}
    (hStep : Step d e)
    (hRuns : Runs e g) :
    Runs d g

end Driver

------------------------------------------------------------
-- One Schedule
------------------------------------------------------------

namespace Progress

/-
  Let an engine reply for as long as it is ready. The flag tells
  that the engine has taken note of the call that is waiting.
-/
def advance {σ : Type} (engine : Engine σ) :
    Progress → Bool → σ → Progress × Bool × σ
| ended flow verdict, _, s => (.ended flow verdict, false, s)
| waiting flow call resume, noted, s =>
    let s := if noted then s else engine.note call s
    if engine.isReady call s then
      (resume (engine.reply call s)).advance engine false s
    else
      (.waiting flow call resume, true, s)

end Progress

namespace Driver

/- A driver together with its engine. -/
structure Station (σ : Type) where
  driver : Driver
  noted : Bool
  engine : σ

namespace Station

/- Take everything from the queue that can be taken now. -/
def takeAll {σ : Type} (x : Station σ) : Station σ :=
  match x.driver.current with
  | .working .review _ =>
      { x with
        driver :=
          { x.driver with
            queue := []
            deferred := x.driver.deferred ++ putOff x.driver.queue } }
  | .working .confirm _ =>
      { x with driver := { x.driver with queue := [] } }
  | _ => x

/-
  Take the first of the queue, if it can be taken now. Taking
  goes on beside the action under way and does not wait to see
  whether that one ends at once.
-/
def takeFirst {σ : Type} (x : Station σ) : Station σ :=
  match x.driver.queue with
  | [] => x
  | a :: rest =>
      match { x.driver with queue := rest }.take? with
      | some taken => { x with driver := taken a }
      | none => x

/- Begin the next action, or stop, if the driver rests. -/
def beginNext? {σ : Type} (x : Station σ) : Option (Station σ) :=
  match x.driver.current with
  | .working _ _ => some x
  | .resting f =>
      match x.driver.deferred, x.driver.queue with
      | a :: rest, _ =>
          some
            (takeFirst
              { x with
                driver :=
                  { x.driver with
                    deferred := rest
                    current := .working a (f.perform a) } })
      | [], a :: rest =>
          some
            (takeFirst
              { x with
                driver :=
                  { x.driver with
                    queue := rest
                    current := .working a (f.perform a) } })
      | [], [] => none

/-
  Begin actions and carry them out, so many at most. An action
  that looks at the queue takes the first of it when it begins,
  and all of it once the engine keeps it waiting.
-/
def work {σ : Type} (engine : Engine σ) : Nat → Station σ → Station σ
| 0, x => x
| n + 1, x =>
    match x.beginNext? with
    | none =>
        { x with
          driver := { x.driver with stopped := x.driver.closed } }
    | some x =>
        match x.driver.current with
        | .resting _ => x
        | .working a p =>
            let (p, noted, s) := p.advance engine x.noted x.engine
            match p with
            | .ended f _ =>
                work engine n
                  { driver := { x.driver with current := .resting f }
                    noted := noted
                    engine := s }
            | .waiting _ _ _ =>
                takeAll
                  { driver := { x.driver with current := .working a p }
                    noted := noted
                    engine := s }

/- How many actions are under way, put off, or in the queue. -/
def load {σ : Type} (x : Station σ) : Nat :=
  x.driver.deferred.length + x.driver.queue.length + 1

/- Carry on until nothing can proceed. -/
def settle {σ : Type} (engine : Engine σ) (x : Station σ) : Station σ :=
  work engine (x.load + 1) x

end Station

end Driver

end Remit
