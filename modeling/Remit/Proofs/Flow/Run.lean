import Remit.Flow.Driver

/-
  This file defines the runs of a flow: actions one after the
  other, each with whatever the engine replies. A run keeps a
  log of all that can be told of it from outside.

  Key definitions include:
    * `Flow.Event`
    * `Flow.Log`
    * `Flow.Run`
    * `Flow.Run.Step`
    * `Flow.Run.Reachable`
    * `Flow.Contract`
    * `Flow.Contract.IsKept`

  Key theorems include:
    * `Flow.Contract.IsKept.holds`
    * `Flow.Contract.IsKept.change`
-/

namespace Remit

namespace Flow

------------------------------------------------------------
-- Logs
------------------------------------------------------------

/- What can be told of a run from outside. -/
inductive Event where
| asked (action : Action)
| called (call : EngineCall)
| replied (call : EngineCall) (reply : call.Reply)
| shown (snapshot : Snapshot)
| ended (action : Action) (verdict : Verdict)

/- The events of a run, the latest first. -/
abbrev Log : Type :=
  List Event

/- The snapshot that an event shows. -/
def Event.snapshot? : Event → Option Snapshot
| shown s => some s
| _ => none

/- The snapshots published since the flow was another one. -/
def shownSince (f : Flow) (old : Flow) : List Snapshot :=
  f.published.take (f.published.length - old.published.length)

/- The log with the snapshots published since an earlier flow. -/
def Log.show (log : Log) (old : Flow) (f : Flow) : Log :=
  (f.shownSince old).map Event.shown ++ log

/-
  The log once an action has got from a flow to the next point,
  where it ends or calls the engine.
-/
def Log.reach
    (log : Log)
    (a : Action)
    (old : Flow) : Progress → Log
| .ended f verdict => .ended a verdict :: log.show old f
| .waiting f call _ => .called call :: log.show old f

------------------------------------------------------------
-- Runs
------------------------------------------------------------

/- Where a run stands, and its log. -/
structure Run where
  current : Current
  log : Log

namespace Run

/- The flow as it is in a run. -/
def flow (r : Run) : Flow :=
  match r.current with
  | .resting f => f
  | .working _ p => p.flow

/-
  The steps of a run. Between actions somebody may subscribe, or
  ask for any action; an action that waits goes on with any
  reply; an action that has ended leaves the flow at rest.
-/
inductive Step : Run → Run → Prop where
| subscribe (f : Flow) (log : Log) :
    Step ⟨.resting f, log⟩
      ⟨.resting f.subscribe, log.show f f.subscribe⟩
| ask (f : Flow) (log : Log) (a : Action) :
    Step ⟨.resting f, log⟩
      ⟨.working a (f.perform a),
        Log.reach (.asked a :: log) a f (f.perform a)⟩
| reply
    (a : Action)
    (f : Flow)
    (call : EngineCall)
    (resume : call.Reply → Progress)
    (log : Log)
    (reply : call.Reply) :
    Step ⟨.working a (.waiting f call resume), log⟩
      ⟨.working a (resume reply),
        Log.reach (.replied call reply :: log) a f (resume reply)⟩
| rest (a : Action) (f : Flow) (verdict : Verdict) (log : Log) :
    Step ⟨.working a (.ended f verdict), log⟩ ⟨.resting f, log⟩

/- The runs that steps lead to from a new flow. -/
inductive Reachable (config : Config) : Run → Prop where
| new : Reachable config ⟨.resting (Flow.new config), []⟩
| step
    {r s : Run}
    (hr : Reachable config r)
    (hStep : Step r s) :
    Reachable config s

section Paths

variable {config : Config} {log : Log} {f : Flow} {a : Action}

/- An action begins as far as it goes without a reply. -/
theorem Step.of_perform
    {p : Progress}
    (hPerform : f.perform a = p) :
    Step ⟨.resting f, log⟩
      ⟨.working a p, Log.reach (.asked a :: log) a f p⟩ := by
  rw [← hPerform]
  exact .ask f log a

/- A flow at rest can be asked for any action. -/
theorem Reachable.ask
    {p : Progress}
    (hr : Reachable config ⟨.resting f, log⟩)
    (hPerform : f.perform a = p) :
    Reachable config
      ⟨.working a p, Log.reach (.asked a :: log) a f p⟩ :=
  hr.step (Step.of_perform hPerform)

/- The engine can reply anything to a call. -/
theorem Reachable.answer
    {call : EngineCall}
    {resume : call.Reply → Progress}
    {p : Progress}
    (hr : Reachable config ⟨.working a (.waiting f call resume), log⟩)
    (reply : call.Reply)
    (hResume : resume reply = p) :
    Reachable config
      ⟨.working a p, Log.reach (.replied call reply :: log) a f p⟩ := by
  rw [← hResume]
  exact hr.step (.reply a f call resume log reply)

/- An action that has ended leaves its flow at rest. -/
theorem Reachable.rest
    {verdict : Verdict}
    (hr : Reachable config ⟨.working a (.ended f verdict), log⟩) :
    Reachable config ⟨.resting f, log⟩ :=
  hr.step (.rest a f verdict log)

end Paths

end Run

------------------------------------------------------------
-- Contracts
------------------------------------------------------------

/-
  What is to hold of a flow at rest, of one that waits for the
  engine and of one whose action has ended, each with the log up
  to there, and how a flow may change between two such points.
-/
structure Contract where
  atRest : Log → Flow → Prop
  atCall : Action → Log → Flow → EngineCall → Prop
  atEnd : Action → Log → Flow → Verdict → Prop
  change : Flow → Flow → Prop

namespace Contract

/- An action keeps to a contract whatever the engine replies. -/
def Covers (k : Contract) (a : Action) : Log → Progress → Prop
| log, .ended f verdict => k.atEnd a log f verdict
| log, .waiting f call resume =>
    k.atCall a log f call ∧
      ∀ reply : call.Reply,
        k.change f (resume reply).flow ∧
          k.Covers a
            (Log.reach (.replied call reply :: log) a f
              (resume reply))
            (resume reply)

/- A run keeps to a contract where it stands. -/
def Holds (k : Contract) (r : Run) : Prop :=
  match r.current with
  | .resting f => k.atRest r.log f
  | .working a p => k.Covers a r.log p

/- An action keeps to a contract from one point on to the next. -/
def Continues
    (k : Contract)
    (a : Action)
    (log : Log)
    (old : Flow)
    (p : Progress) : Prop :=
  k.change old p.flow ∧ k.Covers a (log.reach a old p) p

/-
  A contract is kept if it holds of a new flow, outlives a
  subscription and the end of an action, and if every action
  that is asked for at rest continues in keeping with it.
-/
structure IsKept (k : Contract) (config : Config) : Prop where
  new : k.atRest [] (Flow.new config)
  subscribe :
    ∀ f log, k.atRest log f →
      k.change f f.subscribe ∧
        k.atRest (log.show f f.subscribe) f.subscribe
  perform :
    ∀ f log a, Run.Reachable config ⟨.resting f, log⟩ →
      k.atRest log f →
        k.Continues a (.asked a :: log) f (f.perform a)
  rest :
    ∀ a log f verdict, k.atEnd a log f verdict → k.atRest log f

variable {k : Contract} {config : Config} {r s : Run}

/-
  A contract that is kept holds in every run. The induction is
  on the run; the replies within an action are covered before
  they arrive.
-/
theorem IsKept.holds
    (hKept : k.IsKept config)
    (hr : Run.Reachable config r) :
    k.Holds r := by
  induction hr with
  | new => exact hKept.new
  | step hr hStep ih =>
      cases hStep with
      | subscribe f log => exact (hKept.subscribe f log ih).2
      | ask f log a => exact (hKept.perform f log a hr ih).2
      | reply a f call resume log reply => exact (ih.2 reply).2
      | rest a f verdict log => exact hKept.rest a log f verdict ih

/- Every step of a run changes the flow as the contract has it. -/
theorem IsKept.change
    (hKept : k.IsKept config)
    (hr : Run.Reachable config r)
    (hStep : Run.Step r s) :
    s.flow = r.flow ∨ k.change r.flow s.flow := by
  have hHolds := hKept.holds hr
  cases hStep with
  | subscribe f log =>
      exact Or.inr (hKept.subscribe f log hHolds).1
  | ask f log a =>
      exact Or.inr (hKept.perform f log a hr hHolds).1
  | reply a f call resume log reply =>
      exact Or.inr (hHolds.2 reply).1
  | rest a f verdict log => exact Or.inl rfl

end Contract

end Flow

end Remit
