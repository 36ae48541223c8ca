import Remit.Proofs.Driver.Refinement
import Remit.Proofs.Flow.Paying

/-
  This file proves what a driver can lose. Whatever is dropped
  was taken while a review or a confirmation was under way, and
  this had called for the build or the signature, or else it was
  refused before it made any call. The latter does happen: an
  action that is refused at once is not seen to have ended
  before something else was taken and dropped.

  Key definitions include:
    * `Action.mainCall?`
    * `Driver.Drop.IsForCall`
    * `Driver.Drop.IsForRefusal`
    * `Driver.Course.IsCaused`

  Key theorems include:
    * `Flow.perform_engaged`
    * `Driver.Course.isCaused_of_reachable`
    * `Driver.Course.dropped_of_reachable`
    * `Driver.Course.exists_dropped_start`
-/

namespace Remit

------------------------------------------------------------
-- Actions That Drop Others
------------------------------------------------------------

/- The call for the sake of which an action drops others. -/
def Action.mainCall? : Action → Option CallKind
| review => some .build
| confirm => some .sign
| _ => none

/- What drops another action has a call to make. -/
theorem Action.Drops.isSome_mainCall
    {during a : Action}
    (h : during.Drops a) :
    during.mainCall?.isSome := by
  rcases h with rfl | ⟨rfl, _⟩ <;> rfl

/- Among these calls is the one an action drops others for. -/
def Action.HasMain (a : Action) (calls : List EngineCall) : Prop :=
  ∃ call ∈ calls, a.mainCall? = some call.kind

/- An action has ended with a refusal. -/
def Progress.IsRefused (p : Progress) : Prop :=
  ∃ e, p.verdict? = some (.refused e)

/-
  An action that drops others has made its call, or it has been
  refused without any call.
-/
def Action.Engaged
    (a : Action)
    (calls : List EngineCall)
    (p : Progress) : Prop :=
  a.HasMain calls ∨ calls = [] ∧ p.IsRefused

namespace Flow

variable {f : Flow}

/- A review asks for a build at once, or is refused. -/
theorem review_engaged :
    Action.Engaged .review f.review.calls f.review := by
  unfold review
  split
  · split
    · exact Or.inr ⟨rfl, _, rfl⟩
    · split
      · exact Or.inr ⟨rfl, _, rfl⟩
      · exact Or.inl ⟨_, List.mem_singleton_self _, rfl⟩
  · exact Or.inr ⟨rfl, _, rfl⟩

/- A confirmation asks for a signature at once, or is refused. -/
theorem confirm_engaged :
    Action.Engaged .confirm f.confirm.calls f.confirm := by
  unfold confirm
  split
  · split
    · exact Or.inr ⟨rfl, _, rfl⟩
    · split
      · split
        · exact Or.inr ⟨rfl, _, rfl⟩
        · exact Or.inl ⟨_, List.mem_singleton_self _, rfl⟩
      · exact Or.inr ⟨rfl, _, rfl⟩
  · exact Or.inr ⟨rfl, _, rfl⟩

/- What drops others makes its call first of all. -/
theorem perform_engaged
    {a : Action}
    (hMain : a.mainCall?.isSome) :
    a.Engaged (f.perform a).calls (f.perform a) := by
  cases a with
  | review => exact review_engaged
  | confirm => exact confirm_engaged
  | _ => cases hMain

namespace Log

variable {log : Log} {a : Action} {p : Progress}

/- Snapshots are no calls. -/
theorem recentCalls_show
    (log : Log)
    (old f : Flow) :
    (log.show old f).recentCalls = log.recentCalls := by
  unfold Log.show
  induction f.shownSince old with
  | nil => rfl
  | cons s ss ih => exact ih

/- An action that goes on adds the call that it waits for. -/
theorem recentCalls_reach :
    (log.reach a f p).recentCalls = p.calls ++ log.recentCalls := by
  cases p with
  | ended g verdict => exact recentCalls_show log f g
  | waiting g call resume =>
      exact congrArg (call :: ·) (recentCalls_show log f g)

end Log

end Flow

namespace Driver

------------------------------------------------------------
-- Causes
------------------------------------------------------------

/- It was dropped for the sake of a call that had been made. -/
def Drop.IsForCall (x : Drop) : Prop :=
  x.during.HasMain x.calls

/- It was dropped by an action that was refused without a call. -/
def Drop.IsForRefusal (x : Drop) : Prop :=
  x.calls = [] ∧ ∃ e, x.verdict? = some (.refused e)

namespace Course

variable {f : Flow} {c : Course}

/-
  What is under way and drops others has made its call or was
  refused, and so had everything that dropped another action.
-/
structure IsCaused (c : Course) : Prop where
  working :
    ∀ a p, c.driver.current = .working a p →
      a.mainCall?.isSome → a.Engaged c.log.recentCalls p
  dropped : ∀ x ∈ c.dropped, x.IsForCall ∨ x.IsForRefusal

namespace IsCaused

/- The first of the queue is dropped for what is under way. -/
theorem concat
    (h : c.IsCaused)
    {during a : Action}
    {p : Progress}
    (hWorking : c.driver.current = .working during p)
    (hDrops : during.Drops a)
    {x : Drop}
    (hx : x ∈ c.dropped ++ [c.nextDrop during p]) :
    x.IsForCall ∨ x.IsForRefusal := by
  rcases List.mem_append.mp hx with hOld | hNew
  · exact h.dropped x hOld
  · rw [List.mem_singleton.mp hNew]
    exact h.working during p hWorking hDrops.isSome_mainCall

/- An action that begins has made its call or was refused. -/
theorem asking
    {g : Flow}
    {a b : Action}
    {p : Progress}
    (hBegun : Current.working a (g.perform a) = .working b p)
    (hMain : b.mainCall?.isSome) :
    b.Engaged (c.asking g a).recentCalls p := by
  cases hBegun
  unfold Course.asking
  rw [Flow.Log.recentCalls_reach]
  change Action.Engaged a ((g.perform a).calls ++ []) (g.perform a)
  rw [List.append_nil]
  exact Flow.perform_engaged hMain

/- An action that has made its call goes on as one that has. -/
theorem reply
    {log : Flow.Log}
    {a : Action}
    {g : Flow}
    {call : EngineCall}
    {resume : call.Reply → Progress}
    (h : a.Engaged log.recentCalls (.waiting g call resume))
    (answer : call.Reply) :
    a.Engaged
      (Flow.Log.reach (.replied call answer :: log) a g
        (resume answer)).recentCalls
      (resume answer) := by
  rcases h with ⟨main, hMem, hKind⟩ | ⟨_, e, hRefused⟩
  · rw [Flow.Log.recentCalls_reach]
    exact Or.inl ⟨main, List.mem_append_right _ hMem, hKind⟩
  · cases hRefused

/- Every step keeps to the causes. -/
theorem step
    {d : Course}
    (h : c.IsCaused)
    (hStep : Step c d) :
    d.IsCaused := by
  cases hStep with
  | send a hOpen => exact ⟨h.working, h.dropped⟩
  | close => exact ⟨h.working, h.dropped⟩
  | beginDeferred g a rest hResting hDeferred =>
      exact ⟨fun _ _ => asking, h.dropped⟩
  | beginQueued g a rest hResting hDeferred hQueue =>
      exact ⟨fun _ _ => asking, h.dropped⟩
  | putOff a rest p hReview hQueue hKept =>
      exact ⟨h.working, h.dropped⟩
  | drop during a rest p hWorking hQueue hDrops =>
      exact ⟨h.working, fun _ => h.concat hWorking hDrops⟩
  | reply a g call resume answer hWaiting =>
      refine ⟨?_, h.dropped⟩
      intro b p hWorking hMain
      cases hWorking
      exact reply (h.working a _ hWaiting hMain) answer
  | finish a g verdict hEnded =>
      exact ⟨fun _ _ hWorking => Current.noConfusion hWorking, h.dropped⟩
  | stop g hResting hDeferred hQueue hClosed =>
      exact ⟨h.working, h.dropped⟩

end IsCaused

/- In every course there is a cause for what was dropped. -/
theorem isCaused_of_reachable
    (h : Reachable f c) :
    c.IsCaused := by
  induction h with
  | new =>
      exact
        ⟨fun _ _ hWorking => Current.noConfusion hWorking,
          fun _ hx => absurd hx List.not_mem_nil⟩
  | step _ hStep ih => exact ih.step hStep

/-
  A review drops none but reviews and confirmations, and else
  only a confirmation drops anything. What drops another action
  has called for its build or its signature by then, unless it
  was refused and had made no call at all.

  As in `Driver.Step`, an action makes its first call, or is
  refused, when it begins. What is taken just before the first
  part of an action runs counts as dropped after that part, for
  the same call or refusal; and the queue is not bounded.
-/
theorem dropped_of_reachable
    (h : Reachable f c)
    {x : Drop}
    (hx : x ∈ c.dropped) :
    (∃ a, Names c.sent x.number a ∧ x.during.Drops a) ∧
      (x.IsForCall ∨ x.IsForRefusal) :=
  ⟨(tallies_of_reachable h).dropped x hx,
    (isCaused_of_reachable h).dropped x hx⟩

/- The flow that composes the payment of one row. -/
def composingSpecimen : Flow :=
  Flow.composing (Config.ofNetwork .mainnet)
    (((Composition.new (Config.ofNetwork .mainnet)).setRows
        [Flow.Run.specimen.toRecipient]).setBalance
      ⟨.supply, .zero⟩)

/- A confirmation that comes before the build is dropped for it. -/
theorem dropped_of_reachable_specimen :
    ∃ c x,
      Reachable composingSpecimen c ∧
        x ∈ c.dropped ∧
        c.sent[x.number]? = some .confirm ∧
        x.verdict? = none ∧
        ((∃ a, Names c.sent x.number a ∧ x.during.Drops a) ∧
          (x.IsForCall ∨ x.IsForRefusal)) := by
  have hValid :=
    Composition.validate_eq_ok_iff.mpr
      ⟨Flow.Run.isEmpty_problems_specimen, rfl⟩
  have hWaiting :=
    Flow.review_eq_waiting (f := composingSpecimen.subscribe) rfl
      hValid
  have hBegun :=
    ((Reachable.new (f := composingSpecimen)).step
        (.send _ .review rfl)).step
      (.beginQueued _ composingSpecimen.subscribe .review [] rfl rfl
        rfl)
  have hDropped :=
    (hBegun.step (.send _ .confirm rfl)).step
      (.drop _ .review .confirm [] _ rfl rfl
        (Or.inr ⟨rfl, Or.inr rfl⟩))
  refine
    ⟨_, _, hDropped, List.mem_singleton_self _, rfl, ?_,
      dropped_of_reachable hDropped (List.mem_singleton_self _)⟩
  change (composingSpecimen.subscribe.review).verdict? = none
  rw [hWaiting]
  rfl

/-
  A confirmation that is refused, as there is nothing to confirm
  yet, drops the start that was sent after it. The driver stops
  with a flow that nobody has started, and no call was made.
-/
theorem exists_dropped_start :
    ∃ c x,
      Reachable (Flow.new {}) c ∧
        c.driver.stopped = true ∧
        c.driver.flow.stage = .idle ∧
        x ∈ c.dropped ∧
        Names c.sent x.number .start ∧
        ¬ x.IsForCall := by
  have hBegun :=
    (((Reachable.new (f := Flow.new {})).step
        (.send _ .confirm rfl)).step
      (.send _ .start rfl)).step
      (.beginQueued _ (Flow.new {}).subscribe .confirm _ rfl rfl rfl)
  have hDropped :=
    hBegun.step (.drop _ .confirm .start _ _ rfl rfl (Or.inl rfl))
  have hStopped :=
    ((hDropped.step (.finish _ .confirm _ _ rfl)).step
      (.close _)).step
      (.stop _ _ rfl rfl rfl rfl)
  refine
    ⟨_, _, hStopped, rfl, rfl, List.mem_singleton_self _, rfl, ?_⟩
  rintro ⟨call, hCall, _⟩
  exact absurd hCall List.not_mem_nil

end Course

end Driver

end Remit
