import Remit.Proofs.Flow.Endings
import Remit.Proofs.Flow.Performing

/-
  This file shows that the actions which call no engine keep to
  the account: starting, giving up, editing, retrying, and
  changing the composition.

  Key theorems include:
    * `Flow.continues_start`
    * `Flow.continues_change`
-/

namespace Remit

namespace Flow

variable {config : Config} {log : Log} {f g : Flow}

------------------------------------------------------------
-- Starting
------------------------------------------------------------

/- A flow that is renewed has neither draft nor identifier. -/
theorem Rests.renew
    (h : Rests config log f)
    (hStage : f.stage ∈ [.idle, .complete]) :
    Composition.Reachable config f.renew.composition ∧
      f.renew.draft = none ∧ f.renew.txid = none := by
  unfold Flow.renew
  split
  · exact ⟨h.accords.composed.enter .clear rfl, rfl, rfl⟩
  · rename_i hOpen
    have hIdle : f.stage = .idle := by
      simpa [hOpen] using hStage
    have hNot : ¬ f.stage.HoldsDraft := by
      rw [hIdle]
      decide
    exact
      ⟨h.accords.composed, h.accords.draft_eq_none hNot,
        h.accords.txid_eq_none hOpen⟩

/-
  A first row can only be refused to an idle flow, where nothing
  changes by it: a payment that is complete had rows, so that
  rows are allowed.
-/
theorem Rests.of_unstarted
    {e : SendError}
    (h : Rests config log f)
    (hStage : f.stage ∈ [.idle, .complete])
    (hFirst : f.renew.forget.firstRow? = .error e) :
    f.stage = .idle ∧ f.renew.forget = f ∧
      e = .fault (.tooManyRecipients 0) := by
  rcases firstRow?_eq_error hFirst with ⟨_, hMost, rfl⟩
  have hIdle : f.stage = .idle := by
    by_contra hNot
    have hComplete : f.stage = .complete := by
      simpa [hNot] using hStage
    have hSound :=
      Composition.sound_of_reachable h.accords.composed
    have hConfig :
        f.renew.forget.composition.inputs.config = config := by
      unfold Flow.renew
      rw [if_pos hComplete]
      exact hSound.config_eq
    have hLength := hSound.length_le
    rw [← hConfig, hMost, Nat.le_zero] at hLength
    apply h.accords.coherent.filled (by rw [hComplete]; decide)
    exact List.length_eq_zero_iff.mp hLength
  have hError := (h.accords.coherent.idle hIdle).2
  exact ⟨hIdle, renew_forget_of_idle hIdle hError, rfl⟩

/- Starting keeps to the account. -/
theorem continues_start
    (h : Rests config log f) :
    (account config).Continues .start (.asked .start :: log) f
      f.start := by
  unfold start
  by_cases hStage : f.stage ∈ [.idle, .complete]
  · rw [if_pos hStage]
    rcases h.renew hStage with ⟨hComposed, hDraft, hTxid⟩
    cases hFirst : f.renew.forget.firstRow? with
    | ok g =>
        rcases firstRow?_eq_ok hFirst with ⟨c, rfl, hc⟩
        simp only [hFirst]
        apply continues_composing (h.ask .start).1
        · exact (renew_stage f).2
        · exact (renew_stage f).1
        · rcases List.mem_pair.mp hStage with h' | h' <;>
            rw [h'] <;> decide
        · exact hc config hComposed
        · exact hDraft
        · exact hTxid
        · intro signed txid hFound
          cases hFound
        · exact Verdict.isOrdinary_done
    | error e =>
        rcases h.of_unstarted hStage hFirst with ⟨_, hSame, rfl⟩
        simp only [hFirst]
        rw [hSame]
        apply continues_refused h
        exact Verdict.isOrdinary_refused (fun _ => by simp)
  · rw [if_neg hStage]
    apply continues_refused h
    exact Verdict.isOrdinary_notPermitted f "start"

------------------------------------------------------------
-- Cancelling, Editing, Retrying
------------------------------------------------------------

/- Giving up keeps to the account. -/
theorem continues_cancel
    (h : Rests config log f) :
    (account config).Continues .cancel (.asked .cancel :: log) f
      f.cancel := by
  unfold cancel
  by_cases hStage : f.stage = .composing
  · have hLeads : Stage.Leads f.stage .idle := by
      rw [hStage]
      decide
    have hOpen : f.stage ≠ .complete := by
      rw [hStage]
      decide
    have hNot : ¬ f.stage.HoldsDraft := by
      rw [hStage]
      decide
    have hAccords :
        Accords config (.asked .cancel :: log)
          { f with
            composition := f.composition.cleared
            lastError := none
            stage := .idle } := by
      apply accords_idle
      · exact h.accords.composed.enter .clear rfl
      · rfl
      · rfl
      · exact h.accords.draft_eq_none hNot
      · exact h.accords.txid_eq_none hOpen
      · rfl
      · exact h.accords.unsettled hOpen
    rw [if_pos hStage]
    apply continues_endAt (h.ask .cancel).1
    · rfl
    · rfl
    · exact hLeads
    · exact hAccords.coherent
    · exact hAccords.push rfl (fun _ => rfl) (fun _ => rfl)
    · exact isSettled_of_stage (Or.inr rfl)
    · exact Verdict.isOrdinary_done
  · rw [if_neg hStage]
    apply continues_refused h
    exact Verdict.isOrdinary_notPermitted f "cancel"

/- Going back from the review keeps to the account. -/
theorem continues_edit
    (h : Rests config log f) :
    (account config).Continues .edit (.asked .edit :: log) f
      f.edit := by
  unfold edit
  by_cases hStage : f.stage = .reviewing
  · rw [if_pos hStage]
    apply continues_back h
    · rw [hStage]
      decide
    · rw [hStage]
      exact Stage.noConfusion
    · rfl
    · rfl
    · exact h.accords.composed
    · rfl
    · rfl
    · rfl
  · rw [if_neg hStage]
    apply continues_refused h
    exact Verdict.isOrdinary_notPermitted f "edit"

/- Going back after a failure keeps to the account. -/
theorem continues_retry
    (h : Rests config log f) :
    (account config).Continues .retry (.asked .retry :: log) f
      f.retry := by
  unfold retry
  by_cases hStage : f.stage = .failed
  · rw [if_pos hStage]
    apply continues_back h
    · rw [hStage]
      decide
    · rw [hStage]
      exact Stage.noConfusion
    · rfl
    · rfl
    · exact h.accords.composed
    · rfl
    · rfl
    · rfl
  · rw [if_neg hStage]
    apply continues_refused h
    exact Verdict.isOrdinary_notPermitted f "retry"

------------------------------------------------------------
-- Changing
------------------------------------------------------------

/- Changing the composition keeps to the account. -/
theorem continues_change
    (h : Rests config log f)
    (change : Change) :
    (account config).Continues (.change change)
      (.asked (.change change) :: log) f (f.change change) := by
  have hAsked := h.ask (.change change)
  unfold Flow.change
  by_cases hStage : f.stage ∈ [.composing, .reviewing]
  · have hPair : f.stage = .composing ∨ f.stage = .reviewing := by
      simpa using hStage
    have hOpen : f.stage ≠ .complete := by
      rcases hPair with h' | h' <;> rw [h'] <;> decide
    rw [if_pos hStage]
    cases hChanged : f.changed change with
    | error e =>
        have hSettled : (f.failing e).IsSettled :=
          ⟨h.settled.not_busy, h.settled.not_stale⟩
        exact
          continues_record hAsked.1 (hAsked.2.failing hPair e)
            hSettled (changed_eq_error hChanged)
    | ok g =>
        rcases changed_eq_ok hChanged with ⟨c, rfl, hc⟩
        by_cases hReviewing : f.stage = .reviewing
        · simp only [if_pos hReviewing]
          apply continues_back h
          · rw [hReviewing]
            decide
          · exact hOpen
          · rfl
          · rfl
          · exact hc config h.accords.composed
          · rfl
          · rfl
          · rfl
        · simp only [if_neg hReviewing]
          apply continues_publish h
          · exact hPair.resolve_right hReviewing
          · rfl
          · rfl
          · exact hc config h.accords.composed
          · rfl
          · rfl
          · rfl
  · rw [if_neg hStage]
    apply continues_refused h
    exact Verdict.isOrdinary_notPermitted f "change"

end Flow

end Remit
