import Remit.Proofs.Flow.Replay

/-
  This file follows a driver through its steps. A course numbers
  the actions in the order they were sent, from zero, and tells
  by their numbers what has become of them: begun, put off, or
  dropped while another one was under way. It also keeps the log
  of the flow.

  Key definitions include:
    * `Action.Drops`
    * `Driver.Drop`
    * `Driver.Course`
    * `Driver.Course.Step`
    * `Driver.Course.Reachable`

  Key theorems include:
    * `Driver.Course.Step.driver`
    * `Driver.Course.exists_step`
    * `Driver.Course.exists_reachable`
-/

namespace Remit

/- An action under way drops another one that is taken. -/
def Action.Drops (during : Action) (a : Action) : Prop :=
  during = .confirm ∨ during = .review ∧ Driver.IsDroppedByReview a

/- How an action ended, if it has. -/
def Progress.verdict? : Progress → Option Verdict
| ended _ verdict => some verdict
| waiting _ _ _ => none

/- The calls of the latest action asked for, the latest first. -/
def Flow.Log.recentCalls : Log → List EngineCall
| [] => []
| .asked _ :: _ => []
| .called call :: log => call :: recentCalls log
| _ :: log => recentCalls log

namespace Driver

------------------------------------------------------------
-- Courses
------------------------------------------------------------

/-
  The number of an action that was dropped; what dropped it, the
  calls that this had made by then, the latest first, and how it
  had ended, if it had.
-/
structure Drop where
  number : Nat
  during : Action
  calls : List EngineCall
  verdict? : Option Verdict
deriving DecidableEq, Repr

/-
  A driver; all that was sent, and how many of it have left the
  queue; the numbers of the actions begun, of those put off, and
  of those dropped, each in the order this happened; and the log
  of the flow.
-/
structure Course where
  driver : Driver
  sent : List Action
  taken : Nat
  begun : List Nat
  deferred : List Nat
  dropped : List Drop
  log : Flow.Log

namespace Course

/- The driver of a flow that is shown, before anything is sent. -/
def new (f : Flow) : Course where
  driver := Driver.new f.subscribe
  sent := []
  taken := 0
  begun := []
  deferred := []
  dropped := []
  log := Flow.Log.show [] f f.subscribe

/- The first of those not taken yet, dropped by an action. -/
def nextDrop (c : Course) (during : Action) (p : Progress) : Drop where
  number := c.taken
  during := during
  calls := c.log.recentCalls
  verdict? := p.verdict?

/- The log once a flow at rest was asked for an action. -/
def asking (c : Course) (f : Flow) (a : Action) : Flow.Log :=
  Flow.Log.reach (.asked a :: c.log) a f (f.perform a)

/-
  The steps of a driver, with what they do to its course. What
  is taken from the queue is the first that was not taken yet.
-/
inductive Step : Course → Course → Prop where
| send (c : Course) (a : Action) (hOpen : c.driver.closed = false) :
    Step c
      { c with
        driver := c.driver.send a
        sent := c.sent ++ [a] }
| close (c : Course) :
    Step c { c with driver := c.driver.close }
| beginDeferred
    (c : Course)
    (f : Flow)
    (a : Action)
    (rest : List Action)
    (hResting : c.driver.current = .resting f)
    (hDeferred : c.driver.deferred = a :: rest) :
    Step c
      { c with
        driver :=
          { c.driver with
            deferred := rest
            current := .working a (f.perform a) }
        begun := c.begun ++ c.deferred.take 1
        deferred := c.deferred.drop 1
        log := c.asking f a }
| beginQueued
    (c : Course)
    (f : Flow)
    (a : Action)
    (rest : List Action)
    (hResting : c.driver.current = .resting f)
    (hDeferred : c.driver.deferred = [])
    (hQueue : c.driver.queue = a :: rest) :
    Step c
      { c with
        driver :=
          { c.driver with
            queue := rest
            current := .working a (f.perform a) }
        taken := c.taken + 1
        begun := c.begun ++ [c.taken]
        log := c.asking f a }
| putOff
    (c : Course)
    (a : Action)
    (rest : List Action)
    (p : Progress)
    (hReview : c.driver.current = .working .review p)
    (hQueue : c.driver.queue = a :: rest)
    (hKept : ¬ IsDroppedByReview a) :
    Step c
      { c with
        driver :=
          { c.driver with
            queue := rest
            deferred := c.driver.deferred ++ [a] }
        taken := c.taken + 1
        deferred := c.deferred ++ [c.taken] }
| drop
    (c : Course)
    (during : Action)
    (a : Action)
    (rest : List Action)
    (p : Progress)
    (hWorking : c.driver.current = .working during p)
    (hQueue : c.driver.queue = a :: rest)
    (hDrops : during.Drops a) :
    Step c
      { c with
        driver := { c.driver with queue := rest }
        taken := c.taken + 1
        dropped := c.dropped ++ [c.nextDrop during p] }
| reply
    (c : Course)
    (a : Action)
    (f : Flow)
    (call : EngineCall)
    (resume : call.Reply → Progress)
    (answer : call.Reply)
    (hWaiting : c.driver.current = .working a (.waiting f call resume)) :
    Step c
      { c with
        driver := { c.driver with current := .working a (resume answer) }
        log :=
          Flow.Log.reach (.replied call answer :: c.log) a f
            (resume answer) }
| finish
    (c : Course)
    (a : Action)
    (f : Flow)
    (verdict : Verdict)
    (hEnded : c.driver.current = .working a (.ended f verdict)) :
    Step c
      { c with driver := { c.driver with current := .resting f } }
| stop
    (c : Course)
    (f : Flow)
    (hResting : c.driver.current = .resting f)
    (hDeferred : c.driver.deferred = [])
    (hQueue : c.driver.queue = [])
    (hClosed : c.driver.closed = true) :
    Step c { c with driver := { c.driver with stopped := true } }

/- The courses that steps lead to from the start. -/
inductive Reachable (f : Flow) : Course → Prop where
| new : Reachable f (new f)
| step
    {c d : Course}
    (hc : Reachable f c)
    (hStep : Step c d) :
    Reachable f d

------------------------------------------------------------
-- Courses and Drivers
------------------------------------------------------------

/- A review puts off what it does not drop. -/
theorem putOff_of_kept
    {a : Action}
    (h : ¬ IsDroppedByReview a) :
    putOff [a] = [a] := by
  unfold putOff
  rw [List.filter_cons_of_pos (by simpa using h), List.filter_nil]

/- A review puts off nothing that it drops. -/
theorem putOff_of_dropped
    {a : Action}
    (h : IsDroppedByReview a) :
    putOff [a] = [] := by
  unfold putOff
  rw [List.filter_cons_of_neg (by simpa using h), List.filter_nil]

/- What a review takes joins those put off, unless it is dropped. -/
theorem take?_of_review
    {d : Driver}
    {p : Progress}
    (rest : List Action)
    (hReview : d.current = .working .review p) :
    { d with queue := rest }.take? =
      some
        (fun a =>
          { d with
            queue := rest
            deferred := d.deferred ++ putOff [a] }) := by
  unfold take?
  simp only [hReview]

/- What a review takes is put off. -/
theorem step_putOff
    {d : Driver}
    {a : Action}
    {rest : List Action}
    {p : Progress}
    (hReview : d.current = .working .review p)
    (hQueue : d.queue = a :: rest)
    (hKept : ¬ IsDroppedByReview a) :
    Driver.Step d
      { d with queue := rest, deferred := d.deferred ++ [a] } := by
  have hStep :=
    Driver.Step.take d a rest _ hQueue (take?_of_review rest hReview)
  rw [putOff_of_kept hKept] at hStep
  exact hStep

/- What an action drops leaves the queue, and that is all. -/
theorem step_drop
    {d : Driver}
    {during a : Action}
    {rest : List Action}
    {p : Progress}
    (hWorking : d.current = .working during p)
    (hQueue : d.queue = a :: rest)
    (hDrops : during.Drops a) :
    Driver.Step d { d with queue := rest } := by
  rcases hDrops with rfl | ⟨rfl, hDropped⟩
  · have hTake :
        { d with queue := rest }.take? =
          some (fun _ => { d with queue := rest }) := by
      unfold take?
      simp only [hWorking]
    exact .take d a rest _ hQueue hTake
  · have hStep :=
      Driver.Step.take d a rest _ hQueue
        (take?_of_review rest hWorking)
    rw [putOff_of_dropped hDropped, List.append_nil] at hStep
    exact hStep

/- Every step of a course is one of its driver. -/
theorem Step.driver
    {c d : Course}
    (h : Step c d) :
    Driver.Step c.driver d.driver := by
  cases h with
  | send a hOpen => exact .send _ a hOpen
  | close => exact .close _
  | beginDeferred f a rest hResting hDeferred =>
      exact .beginDeferred _ f a rest hResting hDeferred
  | beginQueued f a rest hResting hDeferred hQueue =>
      exact .beginQueued _ f a rest hResting hDeferred hQueue
  | putOff a rest p hReview hQueue hKept =>
      exact step_putOff hReview hQueue hKept
  | drop during a rest p hWorking hQueue hDrops =>
      exact step_drop hWorking hQueue hDrops
  | reply a f call resume answer hWaiting =>
      exact .reply _ a f call resume answer hWaiting
  | finish a f verdict hEnded => exact .finish _ a f verdict hEnded
  | stop f hResting hDeferred hQueue hClosed =>
      exact .stop _ f hResting hDeferred hQueue hClosed

/- Every step of a driver is one of its course. -/
theorem exists_step
    {c : Course}
    {e : Driver}
    (h : Driver.Step c.driver e) :
    ∃ d, Step c d ∧ d.driver = e := by
  cases h with
  | send a hOpen => exact ⟨_, .send c a hOpen, rfl⟩
  | close => exact ⟨_, .close c, rfl⟩
  | beginDeferred f a rest hResting hDeferred =>
      exact ⟨_, .beginDeferred c f a rest hResting hDeferred, rfl⟩
  | beginQueued f a rest hResting hDeferred hQueue =>
      exact
        ⟨_, .beginQueued c f a rest hResting hDeferred hQueue, rfl⟩
  | take a rest taken hQueue hTake =>
      unfold take? at hTake
      split at hTake
      · rename_i p hReview
        cases hTake
        by_cases hDropped : IsDroppedByReview a
        · refine
            ⟨_, .drop c .review a rest p hReview hQueue
              (Or.inr ⟨rfl, hDropped⟩), ?_⟩
          simp only [putOff_of_dropped hDropped, List.append_nil]
        · refine
            ⟨_, .putOff c a rest p hReview hQueue hDropped, ?_⟩
          simp only [putOff_of_kept hDropped]
      · rename_i p hConfirm
        cases hTake
        exact
          ⟨_, .drop c .confirm a rest p hConfirm hQueue
            (Or.inl rfl), rfl⟩
      · cases hTake
  | reply a f call resume answer hWaiting =>
      exact ⟨_, .reply c a f call resume answer hWaiting, rfl⟩
  | finish a f verdict hEnded =>
      exact ⟨_, .finish c a f verdict hEnded, rfl⟩
  | stop f hResting hDeferred hQueue hClosed =>
      exact ⟨_, .stop c f hResting hDeferred hQueue hClosed, rfl⟩

/- Every run of a driver is followed by a course. -/
theorem exists_reachable
    {f : Flow}
    {d e : Driver}
    (h : Driver.Runs d e) :
    ∀ c, Reachable f c → c.driver = d →
      ∃ c', Reachable f c' ∧ c'.driver = e := by
  induction h with
  | refl d => exact fun c hc hDriver => ⟨c, hc, hDriver⟩
  | step hStep _ ih =>
      rintro c hc rfl
      rcases exists_step hStep with ⟨c', hStep', hDriver⟩
      exact ih c' (hc.step hStep') hDriver

end Course

end Driver

end Remit
