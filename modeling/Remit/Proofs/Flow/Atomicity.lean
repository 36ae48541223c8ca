import Remit.Proofs.Flow.Conclusion
import Remit.Proofs.Flow.Paying

/-
  This file tells what an action leaves behind that does not
  succeed. One that is not permitted, a start without room for a
  row, and a refresh that fails change nothing. A change that is
  rejected, problems that are found and a build that fails are
  noted, and nothing else changes. What fails on the way out
  keeps the composition and the draft.

  Key definitions include:
    * `Flow.Notes`
    * `Flow.FailsWith`
    * `Flow.IsAtomic`

  Key theorems include:
    * `Flow.Concludes.of_change`
    * `Flow.Concludes.of_review`
    * `Flow.Concludes.of_refused`
    * `Flow.Run.isAtomic_of_given`
-/

namespace Remit

namespace Flow

------------------------------------------------------------
-- What May Change
------------------------------------------------------------

/-
  A flow notes a failure and becomes another, which may have
  been shown; there is no other difference.
-/
def Notes (f : Flow) (e : SendError) (g : Flow) : Prop :=
  ∃ shown, g = { f.failing e with published := shown }

/- A flow fails: it notes why, and goes on to the failed stage. -/
def FailsWith (f : Flow) (e : SendError) (g : Flow) : Prop :=
  ∃ shown,
    g = { f.failing e with stage := .failed, published := shown }

section Changes

variable {f g : Flow}

/- Showing a flow changes nothing but what was published. -/
theorem publish_eq
    (f : Flow) :
    ∃ shown, f.publish = { f with published := shown } := by
  unfold publish
  split
  · exact ⟨f.published, rfl⟩
  · exact ⟨f.snapshot :: f.published, rfl⟩

/- Going on changes the stage and what was published. -/
theorem goTo_eq
    (f : Flow)
    (target : Stage) :
    ∃ shown,
      f.goTo target =
        { f with stage := target, published := shown } :=
  publish_eq _

/- A failure that is recorded is noted. -/
theorem notes_publish
    (f : Flow)
    (e : SendError) :
    f.Notes e (f.failing e).publish :=
  publish_eq _

/-
  A failure is noted by a build that leads back to where it
  began: whatever was noted before is forgotten anyway.
-/
theorem notes_unbuilt
    {e : SendError}
    (hStage : f.stage = .composing) :
    f.Notes e
      (((f.forget.goTo .building).failing e).goTo .composing) := by
  rcases goTo_eq f.forget .building with ⟨_, hBuilding⟩
  rw [hBuilding]
  rcases goTo_eq
      (failing { f.forget with stage := .building, published := _ } e)
      .composing with
    ⟨shown, hComposing⟩
  refine ⟨shown, hComposing.trans ?_⟩
  unfold failing forget
  rw [hStage]

/- Whatever was shown on the way, a failure ends the same way. -/
theorem failsWith_goTo
    {e : SendError}
    {stage : Stage}
    {shown : List Snapshot}
    (hg : g = { f with stage := stage, published := shown }) :
    f.FailsWith e ((g.failing e).goTo .failed) := by
  subst hg
  exact goTo_eq _ .failed

end Changes

------------------------------------------------------------
-- Actions That Do Not Succeed
------------------------------------------------------------

/-
  What an action leaves of a flow that it does not succeed for:
    * one that is not permitted at the stage is refused for it,
      as nothing else is; it changes nothing and calls nobody;
    * neither does a start without room for a row;
    * a change is refused exactly if it cannot be made, and a
      review exactly if there are problems; this is noted, and
      nobody is called;
    * a build that fails is noted, without a draft, and the
      payment is composed as before;
    * a signature or a broadcast that fails is noted at the
      failed stage;
    * a refresh that fails changes nothing;
    * there is no other refusal.
-/
structure IsAtomic
    (f : Flow)
    (a : Action)
    (replies : List Answered)
    (g : Flow)
    (v : Verdict) : Prop where
  misplaced_iff :
    f.stage ∉ a.stages ↔ ∃ cause, v = .refused (.stage cause)
  misplaced : f.stage ∉ a.stages → replies = [] ∧ g = f
  unstarted :
    ∀ e, a = .start → v = .refused e → replies = [] ∧ g = f
  rejected_iff :
    ∀ change e, a = .change change → f.stage ∈ a.stages →
      (f.changed change = .error e ↔ v = .refused e)
  rejected :
    ∀ change e, a = .change change → f.stage ∈ a.stages →
      v = .refused e → replies = [] ∧ f.Notes e g
  invalid_iff :
    ∀ ps, a = .review → f.stage ∈ a.stages →
      (f.composition.validate = .error ps ↔
        v = .refused (.problems ps))
  invalid :
    ∀ ps, a = .review → f.stage ∈ a.stages →
      v = .refused (.problems ps) →
        replies = [] ∧ f.Notes (.problems ps) g
  unbuilt :
    ∀ cause, a = .review → v = .refused (.engine cause) →
      g.stage = .composing ∧ g.composition = f.composition ∧
        g.draft = none ∧ f.Notes (.engine cause) g
  unsent :
    ∀ cause, a = .confirm → v = .refused (.engine cause) →
      f.FailsWith (.engine cause) g
  unrefreshed : v = .refreshed false → g = f
  refused :
    ∀ e, v = .refused e →
      (∃ cause, e = .stage cause) ∨ a = .start ∨
        (∃ change, a = .change change) ∨
        (a = .review ∧ ∃ ps, e = .problems ps) ∨
        ((a = .review ∨ a = .confirm) ∧ ∃ cause, e = .engine cause)

section Conclusions

variable
  {f g : Flow} {a : Action} {replies : List Answered} {v : Verdict}

/- An action that is refused for the stage is not permitted there. -/
theorem Concludes.not_mem_stages
    {cause : StageError}
    (h : f.Concludes a replies g (.refused (.stage cause))) :
    f.stage ∉ a.stages := by
  cases h with
  | misplaced _ hStage => exact hStage
  | unstarted _ _ hFirst =>
      rcases firstRow?_eq_error hFirst with ⟨_, _, hFault⟩
      cases hFault
  | rejected change _ _ hChanged =>
      exact absurd rfl (changed_eq_error hChanged cause)

/- A start that is refused changes nothing. -/
theorem Concludes.of_start
    {e : SendError}
    (h : f.Concludes .start replies g (.refused e)) :
    replies = [] ∧ g = f := by
  cases h with
  | misplaced => exact ⟨rfl, rfl⟩
  | unstarted => exact ⟨rfl, rfl⟩

/- A change either is made or is noted to have been rejected. -/
theorem Concludes.of_change
    {change : Change}
    (h : f.Concludes (.change change) replies g v)
    (hStage : f.stage ∈ (Action.change change).stages)
    (e : SendError) :
    (f.changed change = .error e ↔ v = .refused e) ∧
      (v = .refused e → replies = [] ∧ f.Notes e g) := by
  cases h with
  | misplaced _ hNot => exact absurd hStage hNot
  | rejected _ e' _ hChanged =>
      constructor
      · simp [hChanged]
      · intro hRefused
        cases hRefused
        exact ⟨rfl, notes_publish f e⟩
  | changed _ g' _ hChanged =>
      constructor
      · simp [hChanged]
      · intro hRefused
        cases hRefused

/- A review is refused for the problems that there are. -/
theorem Concludes.of_review
    (h : f.Concludes .review replies g v)
    (hStage : f.stage ∈ Action.review.stages)
    (ps : Problems) :
    (f.composition.validate = .error ps ↔
        v = .refused (.problems ps)) ∧
      (v = .refused (.problems ps) →
        replies = [] ∧ f.Notes (.problems ps) g) := by
  cases h with
  | misplaced _ hNot => exact absurd hStage hNot
  | invalid ps' _ hInvalid =>
      constructor
      · simp [hInvalid]
      · intro hRefused
        cases hRefused
        exact ⟨rfl, notes_publish f (.problems ps)⟩
  | unbuilt r cause _ hValid =>
      constructor
      · simp [hValid]
      · intro hRefused
        cases hRefused
  | built r draft _ hValid =>
      constructor
      · simp [hValid]
      · intro hRefused
        cases hRefused

/- A build that fails is noted while the payment is composed. -/
theorem Concludes.of_unbuilt
    {cause : EngineError}
    (h : f.Concludes .review replies g (.refused (.engine cause))) :
    f.stage = .composing ∧ f.Notes (.engine cause) g := by
  cases h with
  | unbuilt _ _ hStage _ => exact ⟨hStage, notes_unbuilt hStage⟩

/- A signature or a broadcast that fails is noted as such. -/
theorem Concludes.of_unsent
    {cause : EngineError}
    (h : f.Concludes .confirm replies g (.refused (.engine cause))) :
    f.FailsWith (.engine cause) g := by
  rcases goTo_eq f .signing with ⟨_, hSigning⟩
  cases h with
  | unsigned => exact failsWith_goTo hSigning
  | unsent =>
      rcases goTo_eq (f.goTo .signing) .broadcasting with
        ⟨_, hBroadcasting⟩
      rw [hSigning] at hBroadcasting ⊢
      exact failsWith_goTo hBroadcasting

/- A refresh that fails changes nothing. -/
theorem Concludes.of_unrefreshed
    (h : f.Concludes a replies g (.refreshed false)) :
    g = f := by
  cases h with
  | unbounded => rfl
  | unlisted => rfl

/- There is no other reason for a refusal. -/
theorem Concludes.of_refused
    {e : SendError}
    (h : f.Concludes a replies g (.refused e)) :
    (∃ cause, e = .stage cause) ∨ a = .start ∨
      (∃ change, a = .change change) ∨
      (a = .review ∧ ∃ ps, e = .problems ps) ∨
      ((a = .review ∨ a = .confirm) ∧ ∃ cause, e = .engine cause) := by
  cases h <;> simp

end Conclusions

namespace Run

variable
  {config : Config} {log : Log} {f g : Flow} {a : Action}
  {replies : List Answered} {v : Verdict}

/-
  Whatever is asked of a flow at rest, and whatever the engine
  replies, an action that does not succeed leaves what it ought
  to.
-/
theorem isAtomic_of_given
    (hr : Reachable config ⟨.resting f, log⟩)
    (hGiven : (f.perform a).given replies = some (.ended g v)) :
    f.IsAtomic a replies g v := by
  have hConcludes := hr.rests.concludes hGiven
  constructor
  · constructor
    · intro hStage
      have hEnded := perform_eq_refused hStage
      exact ⟨_, (Progress.given_ended hEnded hGiven).2.2⟩
    · rintro ⟨cause, rfl⟩
      exact hConcludes.not_mem_stages
  · intro hStage
    have hEnded := perform_eq_refused hStage
    rcases Progress.given_ended hEnded hGiven with ⟨hNone, hSame, _⟩
    exact ⟨hNone, hSame⟩
  · rintro e rfl rfl
    exact hConcludes.of_start
  · rintro change e rfl hStage
    exact (hConcludes.of_change hStage e).1
  · rintro change e rfl hStage
    exact (hConcludes.of_change hStage e).2
  · rintro ps rfl hStage
    exact (hConcludes.of_review hStage ps).1
  · rintro ps rfl hStage
    exact (hConcludes.of_review hStage ps).2
  · rintro cause rfl rfl
    rcases hConcludes.of_unbuilt with ⟨hStage, shown, rfl⟩
    have hNot : ¬ f.stage.HoldsDraft := by
      simp [hStage, Stage.HoldsDraft]
    have hDraft : f.draft = none := hr.accords.draft_eq_none hNot
    exact ⟨hStage, rfl, hDraft, shown, rfl⟩
  · rintro cause rfl rfl
    exact hConcludes.of_unsent
  · rintro rfl
    exact hConcludes.of_unrefreshed
  · rintro e rfl
    exact hConcludes.of_refused

/- A draft under review cannot be signed, and is kept. -/
theorem isAtomic_of_given_specimen :
    ∃ (f g : Flow) (log : Log) (draft : Draft) (cause : EngineError),
      Reachable (Config.ofNetwork .mainnet) ⟨.resting f, log⟩ ∧
        f.draft = some draft ∧
        (f.perform .confirm).given
            [⟨.sign draft f.composition.scope, .error cause⟩] =
          some (.ended g (.refused (.engine cause))) ∧
        f.IsAtomic .confirm
          [⟨.sign draft f.composition.scope, .error cause⟩] g
          (.refused (.engine cause)) := by
  rcases reviewing_specimen with
    ⟨f, log, draft, hReviewed, hReviewing, hDraft, hMatches⟩
  let cause : EngineError := ⟨.rejected, "refused"⟩
  have hConfirm : f.perform .confirm = _ :=
    confirm_eq_waiting hReviewing hDraft hMatches
  have hFailed :=
    fail_eq_ended (Or.inl (goTo_stage f .signing)) cause
  have hGiven :
      (f.perform .confirm).given
          [⟨.sign draft f.composition.scope, .error cause⟩] =
        some
          (.ended (((f.goTo .signing).failing (.engine cause)).goTo
            .failed) (.refused (.engine cause))) := by
    rw [hConfirm, Progress.given_cons]
    exact congrArg some hFailed
  exact
    ⟨f, _, log, draft, cause, hReviewed, hDraft, hGiven,
      isAtomic_of_given hReviewed hGiven⟩

end Run

end Flow

end Remit
