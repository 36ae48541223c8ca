import Mathlib.Data.List.Basic
import Remit.Proofs.Composition.History
import Remit.Proofs.Flow.Publishing

/-
  This file says what each part of an action comes to, with one
  equation for each outcome. Whoever reasons about an action
  cites these instead of its definition.

  Key definitions include:
    * `Action.name`
    * `Action.stages`
    * `Flow.goTo`

  Key theorems include:
    * `Flow.perform_eq_refused`
    * `Flow.start_eq_ended`
    * `Flow.selectScope_eq_ok`
    * `Flow.changed_eq_ok`
    * `Flow.change_eq_ended`
    * `Flow.review_eq_waiting`
    * `Flow.confirm_eq_waiting`
-/

namespace Remit

------------------------------------------------------------
-- Where Actions Are Permitted
------------------------------------------------------------

namespace Action

/-
  The name of an action in a failure. A refresh is permitted at
  every stage, and so its name never comes up.
-/
def name : Action → String
| start => "start"
| cancel => "cancel"
| change _ => "change"
| review => "review"
| edit => "edit"
| confirm => "confirm"
| retry => "retry"
| refreshBounds => "refreshBounds"
| refreshBalances => "refreshBalances"

/- The stages at which an action is permitted. -/
def stages : Action → List Stage
| start => [.idle, .complete]
| cancel => [.composing]
| change _ => [.composing, .reviewing]
| review => [.composing]
| edit => [.reviewing]
| confirm => [.reviewing]
| retry => [.failed]
| refreshBounds => Stage.all
| refreshBalances => Stage.all

end Action

namespace Flow

variable {f g : Flow}

/- An action at any other stage is refused, and changes nothing. -/
theorem perform_eq_refused
    {a : Action}
    (hStage : f.stage ∉ a.stages) :
    f.perform a = .ended f (.refused (f.notPermitted a.name)) := by
  cases a with
  | start => exact if_neg hStage
  | cancel =>
      apply if_neg
      simpa [Action.stages] using hStage
  | change change => exact if_neg hStage
  | review =>
      apply if_neg
      simpa [Action.stages] using hStage
  | edit =>
      apply if_neg
      simpa [Action.stages] using hStage
  | confirm =>
      apply if_neg
      simpa [Action.stages] using hStage
  | retry =>
      apply if_neg
      simpa [Action.stages] using hStage
  | refreshBounds =>
      apply absurd _ hStage
      cases f.stage <;> simp [Action.stages, Stage.all]
  | refreshBalances =>
      apply absurd _ hStage
      cases f.stage <;> simp [Action.stages, Stage.all]

------------------------------------------------------------
-- Going on to Another Stage
------------------------------------------------------------

/- The flow once it has gone on to another stage, and shown it. -/
def goTo (f : Flow) (target : Stage) : Flow :=
  { f with stage := target }.publish

section GoTo

variable (f : Flow) (target : Stage)

@[simp]
theorem goTo_stage :
    (f.goTo target).stage = target :=
  publish_stage _

@[simp]
theorem goTo_composition :
    (f.goTo target).composition = f.composition :=
  publish_composition _

@[simp]
theorem goTo_draft :
    (f.goTo target).draft = f.draft :=
  publish_draft _

@[simp]
theorem goTo_txid :
    (f.goTo target).txid = f.txid :=
  publish_txid _

end GoTo

------------------------------------------------------------
-- Starting
------------------------------------------------------------

/- A flow that is renewed stays where it is. -/
theorem renew_stage
    (f : Flow) :
    f.renew.stage = f.stage ∧ f.renew.published = f.published := by
  unfold renew
  split <;> exact ⟨rfl, rfl⟩

/- There is nothing to renew or to forget in an idle flow. -/
theorem renew_forget_of_idle
    (hStage : f.stage = .idle)
    (hError : f.lastError = none) :
    f.renew.forget = f := by
  unfold renew
  rw [hStage, if_neg Stage.noConfusion]
  unfold forget
  rw [← hError]

/- Making sure of a row changes the composition only. -/
theorem firstRow?_eq_ok
    (h : f.firstRow? = .ok g) :
    ∃ c : Composition,
      g = { f with composition := c } ∧
        ∀ config, Composition.Reachable config f.composition →
          Composition.Reachable config c := by
  unfold firstRow? at h
  split at h
  · cases hAdd : f.composition.enter (.add Recipient.blank) with
    | error e =>
        rw [hAdd] at h
        cases h
    | ok c =>
        rw [hAdd] at h
        cases h
        exact ⟨c, rfl, fun _ hf => hf.enter _ hAdd⟩
  · cases h
    exact ⟨f.composition, rfl, fun _ hf => hf⟩

/- A row is refused only where no rows are allowed at all. -/
theorem firstRow?_eq_error
    {e : SendError}
    (h : f.firstRow? = .error e) :
    f.composition.rows = [] ∧
      f.composition.inputs.config.maxRecipients = 0 ∧
      e = .fault (.tooManyRecipients 0) := by
  unfold firstRow? at h
  by_cases hRows : f.composition.rows = []
  · rw [if_pos hRows] at h
    by_cases hMost : f.composition.inputs.config.maxRecipients = 0
    · have hAdd :
          f.composition.enter (.add Recipient.blank) =
            .error (.fault (.tooManyRecipients 0)) := by
        simp [Composition.enter, Composition.tooMany, hRows, hMost]
      rw [hAdd] at h
      cases h
      exact ⟨hRows, hMost, rfl⟩
    · have hAdd :
          f.composition.enter (.add Recipient.blank) =
            .ok (f.composition.setRows [Recipient.blank]) := by
        simp [Composition.enter, hRows, hMost]
      rw [hAdd] at h
      cases h
  · rw [if_neg hRows] at h
    cases h

/- Starting leads to the composition once there is a row. -/
theorem start_eq_ended
    (hStage : f.stage ∈ [.idle, .complete])
    (hFirst : f.renew.forget.firstRow? = .ok g) :
    f.start = .ended (g.goTo .composing) .done := by
  have hLeads : Stage.Leads g.stage .composing := by
    rcases firstRow?_eq_ok hFirst with ⟨c, rfl, _⟩
    change Stage.Leads f.renew.stage .composing
    rw [(renew_stage f).1]
    rcases List.mem_pair.mp hStage with hStage | hStage <;>
      simp [hStage, Stage.Leads, Stage.edges]
  unfold start
  rw [if_pos hStage]
  simp only [hFirst]
  exact endAt_eq_ended hLeads

------------------------------------------------------------
-- Cancelling, Editing, Retrying
------------------------------------------------------------

/- Giving up leads to an idle flow. -/
theorem cancel_eq_ended
    (hStage : f.stage = .composing) :
    f.cancel =
      .ended
        (goTo
          { f.forget with composition := f.composition.cleared }
          .idle)
        .done := by
  unfold cancel
  rw [if_pos hStage]
  apply endAt_eq_ended
  change Stage.Leads f.stage .idle
  simp [hStage, Stage.Leads, Stage.edges]

/- Going back from the review leads to the composition. -/
theorem edit_eq_ended
    (hStage : f.stage = .reviewing) :
    f.edit = .ended (f.discard.goTo .composing) .done := by
  unfold edit
  rw [if_pos hStage]
  apply endAt_eq_ended
  change Stage.Leads f.stage .composing
  simp [hStage, Stage.Leads, Stage.edges]

/- Going back after a failure leads to the composition. -/
theorem retry_eq_ended
    (hStage : f.stage = .failed) :
    f.retry = .ended (f.discard.forget.goTo .composing) .done := by
  unfold retry
  rw [if_pos hStage]
  apply endAt_eq_ended
  change Stage.Leads f.stage .composing
  simp [hStage, Stage.Leads, Stage.edges]

------------------------------------------------------------
-- Changing
------------------------------------------------------------

/-
  A scope that is chosen is no empty choice of addresses. Once
  the sources are known it is resolved against them, and what it
  amounts to is taken over with it.
-/
theorem selectScope_eq_ok
    {scope : Scope}
    (h : f.selectScope scope = .ok g) :
    scope ≠ .addresses IdSet.empty ∧
      (f.sources = none ∧
          g = { f with composition := f.composition.setScope scope } ∨
        ∃ sources, f.sources = some sources ∧
          g =
            { f with
              composition :=
                (f.composition.setScope
                  (scope.resolve sources).scope).setBalance
                    (scope.resolve sources).balance }) := by
  unfold selectScope at h
  by_cases hEmpty : scope = .addresses IdSet.empty
  · rw [if_pos hEmpty] at h
    cases h
  · rw [if_neg hEmpty] at h
    refine ⟨hEmpty, ?_⟩
    cases hSources : f.sources with
    | none =>
        simp only [hSources] at h
        cases h
        exact Or.inl ⟨rfl, by rw [← hSources]⟩
    | some sources =>
        simp only [hSources] at h
        cases h
        exact Or.inr ⟨sources, rfl, by rw [← hSources]⟩

/- A change that is taken touches the composition only. -/
theorem changed_eq_ok
    {change : Change}
    (h : f.changed change = .ok g) :
    ∃ c : Composition,
      g = { f with composition := c } ∧
        ∀ config, Composition.Reachable config f.composition →
          Composition.Reachable config c := by
  have hScope :
      ∀ scope, f.selectScope scope = .ok g →
        ∃ c : Composition,
          g = { f with composition := c } ∧
            ∀ config, Composition.Reachable config f.composition →
              Composition.Reachable config c := by
    intro scope h
    rcases selectScope_eq_ok h with
      ⟨_, ⟨_, rfl⟩ | ⟨sources, _, rfl⟩⟩
    · exact ⟨_, rfl, fun _ hf => hf.setScope scope⟩
    · exact ⟨_, rfl, fun _ hf => (hf.setScope _).setBalance _⟩
  cases change with
  | enter entry =>
      cases hEnter : f.composition.enter entry with
      | error e =>
          simp only [changed, hEnter] at h
          cases h
      | ok c =>
          simp only [changed, hEnter] at h
          cases h
          exact ⟨c, rfl, fun _ hf => hf.enter entry hEnter⟩
  | scope scope => exact hScope scope h
  | toggle id => exact hScope _ h

/- A change is never refused for the stage. -/
theorem changed_eq_error
    {change : Change}
    {e : SendError}
    (h : f.changed change = .error e)
    (cause : StageError) :
    e ≠ .stage cause := by
  have hScope :
      ∀ scope, f.selectScope scope = .error e → e ≠ .stage cause := by
    intro scope h
    unfold selectScope at h
    by_cases hEmpty : scope = .addresses IdSet.empty
    · rw [if_pos hEmpty] at h
      cases h
      exact SendError.noConfusion
    · rw [if_neg hEmpty] at h
      cases hSources : f.sources with
      | none =>
          simp only [hSources] at h
          cases h
      | some sources =>
          simp only [hSources] at h
          cases h
  cases change with
  | enter entry =>
      cases hEnter : f.composition.enter entry with
      | error e' =>
          simp only [changed, hEnter] at h
          cases h
          rcases Composition.enter_eq_error hEnter with
            rfl | ⟨row, rfl⟩
          · exact SendError.noConfusion
          · exact SendError.noConfusion
      | ok c =>
          simp only [changed, hEnter] at h
          cases h
  | scope scope => exact hScope scope h
  | toggle id => exact hScope _ h

/- A change that is rejected is noted. -/
theorem change_eq_record
    {change : Change}
    {e : SendError}
    (hStage : f.stage ∈ [.composing, .reviewing])
    (hChanged : f.changed change = .error e) :
    f.change change = f.record e := by
  unfold Flow.change
  rw [if_pos hStage]
  simp only [hChanged]

/-
  A change that is taken leads to the composition, with a step
  there only from the review.
-/
theorem change_eq_ended
    {change : Change}
    (hStage : f.stage ∈ [.composing, .reviewing])
    (hChanged : f.changed change = .ok g) :
    f.change change = .ended (g.discard.goTo .composing) .done := by
  rcases changed_eq_ok hChanged with ⟨c, rfl, _⟩
  unfold Flow.change
  rw [if_pos hStage]
  simp only [hChanged]
  by_cases hReviewing : f.stage = .reviewing
  · rw [if_pos hReviewing]
    apply endAt_eq_ended
    change Stage.Leads f.stage .composing
    simp [hReviewing, Stage.Leads, Stage.edges]
  · have hComposing : f.stage = .composing := by
      simpa [hReviewing] using hStage
    rw [if_neg hReviewing]
    unfold goTo discard
    rw [← hComposing]

------------------------------------------------------------
-- Reviewing
------------------------------------------------------------

/- A draft that is not stale is held, agrees, and can be paid. -/
theorem not_isStale_iff :
    ¬ f.IsStale ↔
      (∃ draft, f.draft = some draft ∧
        draft.Matches f.composition.fingerprint) ∧
        f.composition.problems.IsEmpty := by
  unfold IsStale
  rw [not_or, not_not, not_not]
  rfl

/- The problems of a composition are noted. -/
theorem review_eq_record
    {ps : Problems}
    (hStage : f.stage = .composing)
    (hInvalid : f.composition.validate = .error ps) :
    f.review = f.record (.problems ps) := by
  unfold review
  rw [if_pos hStage]
  simp only [hInvalid]

/- A valid composition is put to the engine to build. -/
theorem review_eq_waiting
    {r : Request}
    (hStage : f.stage = .composing)
    (hValid : f.composition.validate = .ok r) :
    f.review =
      .waiting { f.forget with stage := .building }.publish
        (.build r.payment.outputs r.payment.scope r.payment.fee)
        (fun reply =>
          Flow.built { f.forget with stage := .building }.publish r
            reply) := by
  have hLeads : Stage.Leads f.forget.stage .building := by
    change Stage.Leads f.stage .building
    rw [hStage]
    decide
  unfold review
  rw [if_pos hStage]
  simp only [hValid]
  simp only [moveTo?_eq_ok hLeads]

/- A build that failed leads back to the composition. -/
theorem built_error_eq_ended
    (hStage : f.stage = .building)
    (r : Request)
    (cause : EngineError) :
    f.built r (.error cause) =
      .ended ((f.failing (.engine cause)).goTo .composing)
        (.refused (.engine cause)) := by
  apply endAt_eq_ended
  change Stage.Leads f.stage .composing
  simp [hStage, Stage.Leads, Stage.edges]

/- What was built is put to review. -/
theorem built_ok_eq_ended
    (hStage : f.stage = .building)
    (r : Request)
    (draft : Draft) :
    f.built r (.ok draft) =
      .ended
        (goTo { f with draft := some (draft.stamped r.fingerprint) }
          .reviewing)
        .done := by
  apply endAt_eq_ended
  change Stage.Leads f.stage .reviewing
  simp [hStage, Stage.Leads, Stage.edges]

------------------------------------------------------------
-- Confirming
------------------------------------------------------------

/- A draft that agrees with the composition is put to be signed. -/
theorem confirm_eq_waiting
    {draft : Draft}
    (hStage : f.stage = .reviewing)
    (hDraft : f.draft = some draft)
    (hMatches : draft.Matches f.composition.fingerprint) :
    f.confirm =
      .waiting { f with stage := .signing }.publish
        (.sign draft f.composition.scope)
        (fun reply =>
          Flow.signed { f with stage := .signing }.publish
            reply) := by
  have hLeads : Stage.Leads f.stage .signing := by
    rw [hStage]
    decide
  unfold confirm
  rw [if_pos hStage]
  simp only [hDraft, if_pos hMatches]
  simp only [moveTo?_eq_ok hLeads]
  rw [← hDraft]

/- What was signed is broadcast. -/
theorem signed_ok_eq_waiting
    (hStage : f.stage = .signing)
    (signed : Signed) :
    f.signed (.ok signed) =
      .waiting (f.goTo .broadcasting) (.broadcast signed)
        (fun reply => (f.goTo .broadcasting).sent reply) := by
  have hLeads : Stage.Leads f.stage .broadcasting := by
    simp [hStage, Stage.Leads, Stage.edges]
  unfold Flow.signed
  simp only [moveTo?_eq_ok hLeads]
  rfl

/- What was broadcast is complete. -/
theorem sent_ok_eq_ended
    (hStage : f.stage = .broadcasting)
    (txid : String) :
    f.sent (.ok txid) =
      .ended (goTo { f with txid := some txid } .complete)
        (.sent txid) := by
  apply endAt_eq_ended
  change Stage.Leads f.stage .complete
  simp [hStage, Stage.Leads, Stage.edges]

/- A payment fails while it is signed or broadcast. -/
theorem fail_eq_ended
    (hStage : f.stage = .signing ∨ f.stage = .broadcasting)
    (cause : EngineError) :
    f.fail cause =
      .ended ((f.failing (.engine cause)).goTo .failed)
        (.refused (.engine cause)) := by
  apply endAt_eq_ended
  change Stage.Leads f.stage .failed
  rcases hStage with hStage | hStage <;>
    simp [hStage, Stage.Leads, Stage.edges]

end Flow

end Remit
