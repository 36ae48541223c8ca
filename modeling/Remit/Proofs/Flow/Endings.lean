import Remit.Proofs.Flow.Account

/-
  This file shows how an action ends in keeping with the
  account: refused without any change, with a failure that is
  noted, or with a step to another stage.

  Key theorems include:
    * `Flow.continues_refused`
    * `Flow.continues_record`
    * `Flow.continues_endAt`
    * `Flow.continues_back`
    * `Flow.continues_publish`
-/

namespace Remit

------------------------------------------------------------
-- Verdicts
------------------------------------------------------------

namespace Verdict

/- A refusal for anything but the stage. -/
theorem isOrdinary_refused
    {e : SendError}
    (h : ∀ cause, e ≠ .stage cause) :
    (refused e).IsOrdinary := by
  intro cause hCause
  exact absurd (Verdict.refused.inj hCause) (h cause)

/- A verdict that is no refusal. -/
theorem isOrdinary_of_ne
    {v : Verdict}
    (h : ∀ e, v ≠ .refused e) :
    v.IsOrdinary := by
  intro cause hCause
  exact absurd hCause (h _)

/- An action that is done. -/
theorem isOrdinary_done :
    done.IsOrdinary :=
  isOrdinary_of_ne (fun _ => Verdict.noConfusion)

/- An action that is not permitted. -/
theorem isOrdinary_notPermitted
    (f : Flow)
    (action : String) :
    (refused (f.notPermitted action)).IsOrdinary := by
  intro cause hCause
  cases hCause
  exact ⟨action, f.stage, rfl⟩

end Verdict

namespace Flow

variable {config : Config} {log : Log} {f g : Flow}

------------------------------------------------------------
-- Ends of Actions
------------------------------------------------------------

/- A flow at rest is asked for an action. -/
theorem Rests.ask
    (h : Rests config log f)
    (a : Action) :
    Told config (.asked a :: log) f ∧
      f.Accords config (.asked a :: log) := by
  constructor
  · exact h.told.push rfl trivial
  · exact h.accords.push rfl (fun _ => rfl) (fun _ => rfl)

/- Only what is done can make a draft or an identifier obsolete. -/
theorem Accords.ended
    {a : Action}
    {verdict : Verdict}
    (h : f.Accords config log)
    (hNot : verdict ≠ .done) :
    f.Accords config (.ended a verdict :: log) := by
  have hQuiet :
      (Event.ended a verdict).settlesTxid = false ∧
        (Event.ended a verdict).touchesDraft = false := by
    cases verdict with
    | done => exact absurd rfl hNot
    | sent txid => cases a <;> exact ⟨rfl, rfl⟩
    | refreshed ok => cases a <;> exact ⟨rfl, rfl⟩
    | refused e => cases a <;> exact ⟨rfl, rfl⟩
  exact h.push hQuiet.1 (fun _ => hQuiet.2) (fun _ => rfl)

/- An action that changes nothing is refused. -/
theorem continues_refused
    {a : Action}
    {e : SendError}
    (h : Rests config log f)
    (hVerdict : (Verdict.refused e).IsOrdinary) :
    (account config).Continues a (.asked a :: log) f
      (.ended f (.refused e)) := by
  have hAsked := h.ask a
  exact
    continues_ended hAsked.1 (moved_of_eq rfl rfl)
      hAsked.2.coherent (hAsked.2.ended Verdict.noConfusion)
      h.settled hVerdict

/- A flow is settled while a payment is composed, or none is. -/
theorem isSettled_of_stage
    (h : f.stage = .composing ∨ f.stage = .idle) :
    f.IsSettled := by
  constructor
  · rcases h with h | h <;> rw [h] <;> decide
  · intro hReviewing
    rcases h with h | h <;> rw [hReviewing] at h <;> cases h

/- Publishing leaves a flow settled. -/
theorem IsSettled.publish
    (h : f.IsSettled) :
    f.publish.IsSettled where
  not_busy := by
    rw [publish_stage]
    exact h.not_busy
  not_stale := by
    unfold IsStale
    rw [publish_stage, publish_draft, publish_composition]
    exact h.not_stale

/- An action ends with a step to another stage. -/
theorem continues_endAt
    {a : Action}
    {target : Stage}
    {verdict : Verdict}
    (hTold : Told config log f)
    (hPublished : g.published = f.published)
    (hStage : g.stage = f.stage)
    (hLeads : Stage.Leads f.stage target)
    (hCoherent : IsCoherent log { g with stage := target })
    (hAccords :
      Accords config (.ended a verdict :: log)
        { g with stage := target })
    (hSettled : IsSettled { g with stage := target })
    (hVerdict : verdict.IsOrdinary) :
    (account config).Continues a log f (g.endAt target verdict) := by
  rw [endAt_eq_ended (by rw [hStage]; exact hLeads)]
  exact
    continues_ended hTold (moved_to hPublished hLeads)
      hCoherent.publish hAccords.publish hSettled.publish hVerdict

/- An action ends with a failure that is noted and shown. -/
theorem continues_record
    {a : Action}
    {e : SendError}
    (hTold : Told config log f)
    (hAccords : (f.failing e).Accords config log)
    (hSettled : (f.failing e).IsSettled)
    (hOrdinary : ∀ cause, e ≠ .stage cause) :
    (account config).Continues a log f (f.record e) := by
  have hMoved : Moved f (f.failing e) := moved_of_eq rfl rfl
  have hEnded :
      Accords config (.ended a (.refused e) :: log) (f.failing e) :=
    hAccords.ended Verdict.noConfusion
  exact
    continues_ended hTold hMoved.publish hAccords.coherent.publish
      hEnded.publish hSettled.publish
      (Verdict.isOrdinary_refused hOrdinary)

/- An action leads to the composition, without a draft. -/
theorem continues_composing
    {a : Action}
    {verdict : Verdict}
    (hTold : Told config log f)
    (hPublished : g.published = f.published)
    (hStage : g.stage = f.stage)
    (hLeads : Stage.Leads f.stage .composing)
    (hComposed : Composition.Reachable config g.composition)
    (hDraft : g.draft = none)
    (hTxid : g.txid = none)
    (hUnsettled : Log.IsUnsettled (.ended a verdict :: log))
    (hVerdict : verdict.IsOrdinary) :
    (account config).Continues a log f
      (g.endAt .composing verdict) := by
  apply continues_endAt hTold hPublished hStage hLeads
  · exact isCoherent_composing (Or.inl rfl) hDraft hTxid
  · exact
      accords_composing hComposed (Or.inl rfl) hDraft hTxid hUnsettled
  · exact isSettled_of_stage (Or.inl rfl)
  · exact hVerdict

/- An action that starts nothing leaves no broadcast that counts. -/
theorem Rests.unsettled
    {a : Action}
    (h : Rests config log f)
    (hOpen : f.stage ≠ .complete)
    (hQuiet : (Event.ended a .done).settlesTxid = false) :
    Log.IsUnsettled (.ended a .done :: .asked a :: log) := by
  intro signed txid hFound
  rw [List.find?_cons_of_neg (by rw [hQuiet]; decide)] at hFound
  exact (h.ask a).2.unsettled hOpen signed txid hFound

/-
  An action that is done leads from a stage before completion
  back to the composition, and lets go of the draft.
-/
theorem continues_back
    {a : Action}
    (h : Rests config log f)
    (hLeads : Stage.Leads f.stage .composing)
    (hOpen : f.stage ≠ .complete)
    (hPublished : g.published = f.published)
    (hStage : g.stage = f.stage)
    (hComposed : Composition.Reachable config g.composition)
    (hDraft : g.draft = none)
    (hTxid : g.txid = f.txid)
    (hQuiet : (Event.ended a .done).settlesTxid = false) :
    (account config).Continues a (.asked a :: log) f
      (g.endAt .composing .done) := by
  apply continues_composing (h.ask a).1 hPublished hStage hLeads
  · exact hComposed
  · exact hDraft
  · rw [hTxid]
    exact h.accords.txid_eq_none hOpen
  · exact h.unsettled hOpen hQuiet
  · exact Verdict.isOrdinary_done

/- An action that is done while composing is shown there. -/
theorem continues_publish
    {a : Action}
    (h : Rests config log f)
    (hComposing : f.stage = .composing)
    (hPublished : g.published = f.published)
    (hStage : g.stage = f.stage)
    (hComposed : Composition.Reachable config g.composition)
    (hDraft : g.draft = none)
    (hTxid : g.txid = f.txid)
    (hQuiet : (Event.ended a .done).settlesTxid = false) :
    (account config).Continues a (.asked a :: log) f
      (.ended g.publish .done) := by
  have hHere : g.stage = .composing := hStage.trans hComposing
  have hOpen : f.stage ≠ .complete := by
    rw [hComposing]
    exact Stage.noConfusion
  have hNone : g.txid = none := by
    rw [hTxid]
    exact h.accords.txid_eq_none hOpen
  have hMoved : Moved f g := moved_of_eq hPublished hStage
  apply continues_ended (h.ask a).1 hMoved.publish
  · apply IsCoherent.publish
    exact isCoherent_composing (Or.inl hHere) hDraft hNone
  · apply Accords.publish
    exact
      accords_composing hComposed (Or.inl hHere) hDraft hNone
        (h.unsettled hOpen hQuiet)
  · apply IsSettled.publish
    exact isSettled_of_stage (Or.inl hHere)
  · exact Verdict.isOrdinary_done

end Flow

end Remit
