import Remit.Proofs.Flow.Confirming

/-
  This file shows that refreshing keeps to the account, at any
  stage. What was refreshed may make a draft under review stale,
  which is then let go of; the rows stay as they are.

  Key theorems include:
    * `Flow.Accords.dropStale`
    * `Flow.continues_refreshed`
    * `Flow.continues_refreshBounds`
    * `Flow.continues_refreshBalances`
-/

namespace Remit

namespace Flow

variable {config : Config} {log : Log} {f g : Flow}

------------------------------------------------------------
-- Stale Drafts
------------------------------------------------------------

/- Letting go of a stale draft leaves the accord as it is. -/
theorem Accords.dropStale
    (h : f.Accords config log) :
    f.dropStale.Accords config log := by
  by_cases hStale : f.stage = .reviewing ∧ f.IsStale
  · have hOpen : f.stage ≠ .complete := by
      rw [hStale.1]
      exact Stage.noConfusion
    rw [dropStale_eq_publish hStale.1 hStale.2]
    apply Accords.publish
    apply accords_composing
    · exact h.composed
    · exact Or.inl rfl
    · rfl
    · exact h.txid_eq_none hOpen
    · exact h.unsettled hOpen
  · rw [dropStale_eq_self hStale]
    exact h

/- Without a stale draft a flow is settled. -/
theorem isSettled_dropStale
    (hBusy : ¬ f.stage.IsBusy) :
    f.dropStale.IsSettled := by
  by_cases hStale : f.stage = .reviewing ∧ f.IsStale
  · rw [dropStale_eq_publish hStale.1 hStale.2]
    apply IsSettled.publish
    exact isSettled_of_stage (Or.inl rfl)
  · rw [dropStale_eq_self hStale]
    refine ⟨hBusy, fun hReviewing hIs => ?_⟩
    exact hStale ⟨hReviewing, hIs⟩

/- What was refreshed is shown, without a stale draft. -/
theorem continues_refreshed
    {a : Action}
    (hTold : Told config log f)
    (hPublished : g.published = f.published)
    (hStage : g.stage = f.stage)
    (hAccords : g.Accords config log)
    (hBusy : ¬ g.stage.IsBusy) :
    (account config).Continues a log f g.refreshed := by
  have hMoved := (moved_dropStale hPublished hStage).publish
  have hDropped := hAccords.dropStale.publish
  exact
    continues_ended hTold hMoved hDropped.coherent
      (hDropped.ended Verdict.noConfusion) (isSettled_dropStale hBusy).publish
      (Verdict.isOrdinary_of_ne (fun _ => Verdict.noConfusion))

/- A refresh that failed changes nothing. -/
theorem continues_unrefreshed
    {a : Action}
    (hTold : Told config log f)
    (hAccords : f.Accords config log)
    (hSettled : f.IsSettled) :
    (account config).Continues a log f
      (.ended f (.refreshed false)) :=
  continues_ended hTold (moved_of_eq rfl rfl) hAccords.coherent
    (hAccords.ended Verdict.noConfusion) hSettled
    (Verdict.isOrdinary_of_ne (fun _ => Verdict.noConfusion))

------------------------------------------------------------
-- Bounds and Balances
------------------------------------------------------------

/- Refreshing the bounds of the fee keeps to the account. -/
theorem continues_refreshBounds
    (h : Rests config log f) :
    (account config).Continues .refreshBounds
      (.asked .refreshBounds :: log) f f.refreshBounds := by
  have hAsked := h.ask .refreshBounds
  unfold refreshBounds
  apply continues_waiting hAsked.1 (moved_of_eq rfl rfl) hAsked.2
  · exact fun _ => rfl
  · exact trivial
  · exact fun _ _ => EngineCall.noConfusion
  · intro reply earlier _ hTold hAccords
    have hReplied := hAccords.push (e := .replied .bounds reply)
      rfl (fun _ => rfl) (fun _ => rfl)
    cases reply with
    | ok bounds =>
        refine continues_refreshed hTold ?_ ?_ ?_ ?_
        · rfl
        · rfl
        · apply hReplied.resettle
          · exact h.accords.composed.setBounds bounds
          · rfl
          · rfl
          · rfl
          · rfl
          · rfl
        · exact h.settled.not_busy
    | error cause =>
        exact continues_unrefreshed hTold hReplied h.settled

/- Listed sources may change the scope, and nothing else. -/
theorem Accords.listed
    (h : f.Accords config log)
    (sources : List Source) :
    (f.listed sources).Accords config log := by
  apply h.resettle
  · change Composition.Reachable config (ite _ _ _)
    split
    · exact h.composed.setScope _
    · exact h.composed
  · change Composition.rows (ite _ _ _) = _
    split
    · rfl
    · rfl
  · rfl
  · rfl
  · rfl
  · rfl

/- Refreshing the balance keeps to the account. -/
theorem continues_refreshBalances
    (h : Rests config log f) :
    (account config).Continues .refreshBalances
      (.asked .refreshBalances :: log) f f.refreshBalances := by
  have hAsked := h.ask .refreshBalances
  unfold refreshBalances
  apply continues_waiting hAsked.1 (moved_of_eq rfl rfl) hAsked.2
  · exact fun _ => rfl
  · exact trivial
  · exact fun _ _ => EngineCall.noConfusion
  · intro reply earlier _ hTold hAccords
    have hReplied := hAccords.push (e := .replied .sources reply)
      rfl (fun _ => rfl) (fun _ => rfl)
    cases reply with
    | error cause =>
        exact continues_unrefreshed hTold hReplied h.settled
    | ok sources =>
        have hMoved : Moved f (f.listed sources) :=
          moved_of_eq rfl rfl
        apply continues_waiting hTold hMoved
          (hReplied.listed sources)
        · exact fun _ => rfl
        · exact trivial
        · exact fun _ _ => EngineCall.noConfusion
        · intro reply earlier _ hTold hAccords
          refine continues_refreshed hTold ?_ ?_ ?_ ?_
          · rfl
          · rfl
          · apply Accords.push _ rfl (fun _ => rfl) (fun _ => rfl)
            apply hAccords.resettle
            · exact hAccords.composed.setBalance _
            · rfl
            · rfl
            · rfl
            · rfl
            · rfl
          · exact h.settled.not_busy

end Flow

end Remit
