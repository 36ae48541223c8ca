import Mathlib.Logic.Relation
import Remit.Proofs.Flow.Conclusion

/-
  This file shows that whoever watches a flow sees it as it is:
  once somebody has subscribed, the snapshot that was published
  last is that of the flow whenever no action is under way. An
  action leaves the flow as it found it, or ends by showing it.

  Key definitions include:
    * `Flow.IsWatched`
    * `Flow.Run.IsBetween`

  Key theorems include:
    * `Flow.Concludes.eq_or_publish`
    * `Flow.Run.isWatched_of_reachable`
    * `Flow.Run.head?_snapshots_of_subscribed`
-/

namespace Remit

namespace Flow

------------------------------------------------------------
-- Watched Flows
------------------------------------------------------------

/- What was published last, if anything, is the flow as it is. -/
def IsWatched (f : Flow) : Prop :=
  f.published ≠ [] → f.published.head? = some f.snapshot

section Watched

variable
  {f g : Flow} {a : Action} {replies : List Answered} {v : Verdict}

/- A flow that is published is seen as it is. -/
theorem isWatched_publish
    (f : Flow) :
    f.publish.IsWatched := by
  intro hSome
  unfold publish at hSome ⊢
  split
  · rename_i hNone
    rw [if_pos hNone] at hSome
    exact absurd hNone hSome
  · simp [snapshot]

/- The first subscriber sees the flow as it is. -/
theorem IsWatched.subscribe
    (h : f.IsWatched) :
    f.subscribe.IsWatched := by
  unfold Flow.subscribe
  split
  · intro _
    simp [snapshot]
  · exact h

/- An action leaves the flow as it is, or ends by publishing it. -/
theorem Concludes.eq_or_publish
    (h : f.Concludes a replies g v) :
    g = f ∨ ∃ last : Flow, g = last.publish := by
  cases h with
  | misplaced => exact Or.inl rfl
  | unstarted => exact Or.inl rfl
  | unbounded => exact Or.inl rfl
  | unlisted => exact Or.inl rfl
  | _ => exact Or.inr ⟨_, rfl⟩

/- An action leaves a flow that is seen as it is. -/
theorem Concludes.isWatched
    (h : f.Concludes a replies g v)
    (hWatched : f.IsWatched) :
    g.IsWatched := by
  rcases h.eq_or_publish with rfl | ⟨last, rfl⟩
  · exact hWatched
  · exact isWatched_publish last

end Watched

------------------------------------------------------------
-- Every Run
------------------------------------------------------------

namespace Run

variable {config : Config} {r s : Run} {f : Flow} {log : Log}

/- No action is under way: the flow is at rest, or one has ended. -/
def IsBetween (r : Run) : Prop :=
  match r.current with
  | .resting _ => True
  | .working _ (.ended _ _) => True
  | .working _ (.waiting _ _ _) => False

/- Whenever no action is under way, a flow is seen as it is. -/
theorem isWatched_of_reachable
    (hr : Reachable config r)
    (hBetween : r.IsBetween) :
    r.flow.IsWatched := by
  have hKept : (Contract.between IsWatched).IsKept config := by
    apply between_isKept
    · intro hSome
      exact absurd rfl hSome
    · intro f h
      exact h.subscribe
    · intro f g log a replies v _ h hConcludes
      exact hConcludes.isWatched h
  have hHolds := hKept.holds hr
  rcases r with ⟨f | ⟨a, f | ⟨f, call, resume⟩⟩, log⟩
  · exact hHolds
  · exact hHolds
  · exact False.elim hBetween

/- What steps lead to can be reached. -/
theorem Reachable.steps
    (hr : Reachable config r)
    (hSteps : Relation.ReflTransGen Step r s) :
    Reachable config s := by
  induction hSteps with
  | refl => exact hr
  | tail _ hStep ih => exact ih.step hStep

/- A subscription is never lost. -/
theorem published_ne_nil
    (hr : Reachable config r)
    (hSteps : Relation.ReflTransGen Step r s)
    (hSome : r.flow.published ≠ []) :
    s.flow.published ≠ [] := by
  induction hSteps with
  | refl => exact hSome
  | tail hSteps hStep ih =>
      rcases (account_isKept config).change (hr.steps hSteps) hStep
        with hSame | ⟨n, hPublished, _⟩
      · rw [hSame]
        exact ih
      · rw [hPublished]
        exact List.append_ne_nil_of_right_ne_nil _ ih

/- Whoever subscribes is shown something. -/
theorem published_subscribe
    (f : Flow) :
    f.subscribe.published ≠ [] := by
  unfold subscribe
  split
  · simp
  · assumption

/-
  Once somebody has subscribed, and whatever is asked for and
  replied since, the flow was last published as it is whenever
  no action is under way; the log tells the same.
-/
theorem head?_snapshots_of_subscribed
    (hr : Reachable config ⟨.resting f, log⟩)
    (hSteps :
      Relation.ReflTransGen Step
        ⟨.resting f.subscribe, log.show f f.subscribe⟩ s)
    (hBetween : s.IsBetween) :
    s.flow.published.head? = some s.flow.snapshot ∧
      s.log.snapshots.head? = some s.flow.snapshot := by
  have hSubscribed := hr.step (.subscribe f log)
  have hReached := hSubscribed.steps hSteps
  have hSome : s.flow.published ≠ [] :=
    published_ne_nil hSubscribed hSteps (published_subscribe f)
  have hLast := isWatched_of_reachable hReached hBetween hSome
  refine ⟨hLast, ?_⟩
  rw [← hReached.told.published]
  exact hLast

/- A payment that is started is seen by whoever subscribed before. -/
theorem head?_snapshots_of_subscribed_specimen :
    ∃ (f : Flow) (log : Log),
      Reachable (Config.ofNetwork .mainnet)
          ⟨.working .start (.ended f .done), log⟩ ∧
        f.stage = .composing ∧
        f.published.head? = some f.snapshot ∧
        log.snapshots.head? = some f.snapshot := by
  have hNew : Reachable (Config.ofNetwork .mainnet) _ := .new
  have hSubscribed := hNew.step (.subscribe _ _)
  have hStage :
      (new (Config.ofNetwork .mainnet)).subscribe.stage ∈
        [Stage.idle, .complete] :=
    List.mem_cons_self
  have hStarted :
      (new (Config.ofNetwork .mainnet)).subscribe.perform .start =
        _ :=
    start_eq_ended hStage rfl
  have hShown :=
    head?_snapshots_of_subscribed hNew
      (.single (Step.of_perform hStarted)) trivial
  exact
    ⟨_, _, hSubscribed.ask hStarted, goTo_stage _ _, hShown⟩

end Run

end Flow

end Remit
