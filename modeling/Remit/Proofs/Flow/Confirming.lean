import Remit.Proofs.Flow.Composing

/-
  This file shows that reviewing and confirming keep to the
  account. A review builds what the composition asks for; what
  is confirmed is signed and broadcast in one go, or fails.

  Key theorems include:
    * `Flow.continues_review`
    * `Flow.continues_confirm`
-/

namespace Remit

namespace Flow

variable {config : Config} {log : Log} {f : Flow}

------------------------------------------------------------
-- Reviewing
------------------------------------------------------------

/- What the engine built is put to review. -/
theorem continues_built
    {r : Request}
    {draft : Draft}
    (hTold :
      Told config
        (.replied (.build r.payment.outputs r.payment.scope
          r.payment.fee) (.ok draft) :: log) f)
    (hAccords : f.Accords config log)
    (hStage : f.stage = .building)
    (hValid : f.composition.validate = .ok r) :
    (account config).Continues .review
      (.replied (.build r.payment.outputs r.payment.scope
        r.payment.fee) (.ok draft) :: log) f
      (f.built r (.ok draft)) := by
  rcases Composition.validate_eq_ok_iff.mp hValid with ⟨hEmpty, rfl⟩
  have hSound := Composition.sound_of_reachable hAccords.composed
  have hRows :=
    ((Composition.isEmpty_problems_iff hSound).mp hEmpty).1
  have hOpen : f.stage ≠ .complete := by
    rw [hStage]
    exact Stage.noConfusion
  have hTxid := hAccords.txid_eq_none hOpen
  have hCoherent :
      ∀ log',
        IsCoherent log'
          { f with
            draft := some (draft.stamped f.composition.fingerprint)
            stage := .reviewing } := by
    intro log'
    apply isCoherent_holding
    · change Stage.reviewing.HoldsDraft
      decide
    · rfl
    · exact hRows
    · rw [hTxid]
      exact iff_of_false Bool.false_ne_true Stage.noConfusion
    · exact Stage.noConfusion
  apply continues_endAt hTold
  · rfl
  · rfl
  · rw [hStage]
    decide
  · exact hCoherent _
  · refine ⟨hAccords.composed, hCoherent _, hAccords.txid_eq, ?_⟩
    intro _
    refine ⟨draft, f.composition.payment, ?_, rfl, rfl, rfl⟩
    exact Composition.network_of_validate hSound hValid
  · constructor
    · change ¬ Stage.reviewing.IsBusy
      decide
    · intro _
      exact not_isStale_iff.mpr ⟨⟨_, rfl, rfl⟩, hEmpty⟩
  · exact Verdict.isOrdinary_done

/- A build that failed leads back to the composition. -/
theorem continues_unbuilt
    {r : Request}
    {cause : EngineError}
    (hTold :
      Told config
        (.replied (.build r.payment.outputs r.payment.scope
          r.payment.fee) (.error cause) :: log) f)
    (hAccords : f.Accords config log)
    (hStage : f.stage = .building) :
    (account config).Continues .review
      (.replied (.build r.payment.outputs r.payment.scope
        r.payment.fee) (.error cause) :: log) f
      (f.built r (.error cause)) := by
  have hOpen : f.stage ≠ .complete := by
    rw [hStage]
    exact Stage.noConfusion
  have hNot : ¬ f.stage.HoldsDraft := by
    rw [hStage]
    decide
  apply continues_composing hTold
  · rfl
  · rfl
  · rw [hStage]
    decide
  · exact hAccords.composed
  · exact hAccords.draft_eq_none hNot
  · exact hAccords.txid_eq_none hOpen
  · exact hAccords.unsettled hOpen
  · exact Verdict.isOrdinary_refused (fun _ => SendError.noConfusion)

/-
  A review of a valid composition keeps to the account: the
  build is called for by the request that was just found.
-/
theorem continues_reviewed
    {r : Request}
    (h : Rests config log f)
    (hReachable : Run.Reachable config ⟨.resting f, log⟩)
    (hStage : f.stage = .composing)
    (hValid : f.composition.validate = .ok r) :
    (account config).Continues .review (.asked .review :: log) f
      f.review := by
  have hOpen : f.stage ≠ .complete := by
    rw [hStage]
    exact Stage.noConfusion
  have hNot : ¬ f.stage.HoldsDraft := by
    rw [hStage]
    decide
  have hAccords :
      Accords config (.asked .review :: log)
        { f.forget with stage := .building } := by
    apply accords_composing
    · exact h.accords.composed
    · exact Or.inr rfl
    · exact h.accords.draft_eq_none hNot
    · exact h.accords.txid_eq_none hOpen
    · exact h.accords.unsettled hOpen
  have hMoved :
      Moved f { f.forget with stage := .building }.publish := by
    refine moved_to rfl ?_
    rw [hStage]
    decide
  rw [review_eq_waiting hStage hValid]
  apply continues_waiting (h.ask .review).1 hMoved hAccords.publish
  · rw [publish_stage]
    exact Stage.noConfusion
  · exact
      ⟨f, log, r, ⟨_, rfl⟩, hReachable, hStage, hValid, rfl, rfl,
        rfl⟩
  · exact fun _ _ => EngineCall.noConfusion
  · intro reply earlier _ hTold hAccords
    cases reply with
    | ok draft =>
        apply continues_built hTold hAccords
        · exact publish_stage _
        · rw [publish_composition]
          exact hValid
    | error cause =>
        apply continues_unbuilt hTold hAccords
        exact publish_stage _

/- Reviewing keeps to the account. -/
theorem continues_review
    (h : Rests config log f)
    (hReachable : Run.Reachable config ⟨.resting f, log⟩) :
    (account config).Continues .review (.asked .review :: log) f
      f.review := by
  have hAsked := h.ask .review
  by_cases hStage : f.stage = .composing
  · cases hValid : f.composition.validate with
    | ok r => exact continues_reviewed h hReachable hStage hValid
    | error ps =>
        have hSettled : (f.failing (.problems ps)).IsSettled :=
          isSettled_of_stage (Or.inl hStage)
        rw [review_eq_record hStage hValid]
        exact
          continues_record hAsked.1
            (hAsked.2.failing (Or.inl hStage) _) hSettled
            (fun _ => SendError.noConfusion)
  · unfold review
    rw [if_neg hStage]
    apply continues_refused h
    exact Verdict.isOrdinary_notPermitted f "review"

------------------------------------------------------------
-- Confirming
------------------------------------------------------------

/- A payment is broadcast once it is complete. -/
theorem continues_complete
    {signed : Signed}
    {txid : String}
    (hTold :
      Told config (.replied (.broadcast signed) (.ok txid) :: log) f)
    (hAccords : f.Accords config log)
    (hStage : f.stage = .broadcasting) :
    (account config).Continues .confirm
      (.replied (.broadcast signed) (.ok txid) :: log) f
      (f.sent (.ok txid)) := by
  have hHolds : f.stage.HoldsDraft := by
    rw [hStage]
    decide
  have hCoherent :
      ∀ log',
        IsCoherent log'
          { f with txid := some txid, stage := .complete } := by
    intro log'
    apply isCoherent_holding
    · change Stage.complete.HoldsDraft
      decide
    · exact hAccords.coherent.draft_iff.mpr hHolds
    · exact hAccords.coherent.filled hHolds
    · exact iff_of_true rfl rfl
    · exact Stage.noConfusion
  apply continues_endAt hTold
  · rfl
  · rfl
  · rw [hStage]
    decide
  · exact hCoherent _
  · refine
      ⟨hAccords.composed, hCoherent _, ?_, Stage.noConfusion⟩
    intro txid'
    constructor
    · intro h
      cases h
      exact ⟨signed, rfl⟩
    · rintro ⟨signed', h⟩
      cases h
      rfl
  · constructor
    · change ¬ Stage.complete.IsBusy
      decide
    · exact Stage.noConfusion
  · exact Verdict.isOrdinary_of_ne (fun _ => Verdict.noConfusion)

/- A signature or a broadcast that failed fails the payment. -/
theorem continues_fail
    {call : EngineCall}
    {cause : EngineError}
    (hTold : Told config (.replied call (.error cause) :: log) f)
    (hAccords : f.Accords config log)
    (hStage : f.stage = .signing ∨ f.stage = .broadcasting)
    (hSend : Event.repliesToSend (.replied call (.error cause)))
    (hUnsettled :
      Log.IsUnsettled (.replied call (.error cause) :: log)) :
    (account config).Continues .confirm
      (.replied call (.error cause) :: log) f (f.fail cause) := by
  have hHolds : f.stage.HoldsDraft := by
    rcases hStage with h | h <;> rw [h] <;> decide
  have hOpen : f.stage ≠ .complete := by
    rcases hStage with h | h <;> rw [h] <;> exact Stage.noConfusion
  have hTxid := hAccords.txid_eq_none hOpen
  have hCoherent :
      IsCoherent (.replied call (.error cause) :: log)
        { f.failing (.engine cause) with stage := .failed } := by
    apply isCoherent_holding
    · change Stage.failed.HoldsDraft
      decide
    · exact hAccords.coherent.draft_iff.mpr hHolds
    · exact hAccords.coherent.filled hHolds
    · change f.txid.isSome ↔ _
      rw [hTxid]
      exact iff_of_false Bool.false_ne_true Stage.noConfusion
    · exact fun _ => ⟨cause, ⟨call, List.find?_cons_of_pos hSend⟩, rfl⟩
  apply continues_endAt hTold
  · rfl
  · rfl
  · rcases hStage with h | h <;> rw [h] <;> decide
  · exact hCoherent
  · refine Accords.ended ?_ Verdict.noConfusion
    exact
      ⟨hAccords.composed, hCoherent, hUnsettled.txid_eq hTxid,
        Stage.noConfusion⟩
  · constructor
    · change ¬ Stage.failed.IsBusy
      decide
    · exact Stage.noConfusion
  · exact Verdict.isOrdinary_refused (fun _ => SendError.noConfusion)

/- What the engine signed is broadcast, and nothing else. -/
theorem continues_signed
    {draft : Draft}
    {scope : Scope}
    {start : Log}
    {reply : (EngineCall.sign draft scope).Reply}
    (hTold :
      Told config
        (.replied (.sign draft scope) reply ::
          .called (.sign draft scope) :: start) f)
    (hAccords :
      f.Accords config (.called (.sign draft scope) :: start))
    (hStage : f.stage = .signing) :
    (account config).Continues .confirm
      (.replied (.sign draft scope) reply ::
        .called (.sign draft scope) :: start) f
      (f.signed reply) := by
  have hOpen : f.stage ≠ .complete := by
    rw [hStage]
    exact Stage.noConfusion
  cases reply with
  | error cause =>
      apply continues_fail hTold hAccords (Or.inl hStage) rfl
      exact hAccords.unsettled hOpen
  | ok signed =>
      have hLeads : Stage.Leads f.stage .broadcasting := by
        rw [hStage]
        decide
      have hMoved :
          Moved f { f with stage := .broadcasting }.publish :=
        moved_to rfl hLeads
      have hReplied :
          Accords config
            (.replied (.sign draft scope) (.ok signed) ::
              .called (.sign draft scope) :: start) f := by
        apply hAccords.push rfl (fun _ => rfl)
        rw [hStage]
        exact Stage.noConfusion
      have hBroadcasting :
          Accords config
            (.replied (.sign draft scope) (.ok signed) ::
              .called (.sign draft scope) :: start)
            { f with stage := .broadcasting } := by
        apply hReplied.carry
        · rw [hStage]
          decide
        · exact hOpen
        · exact Or.inr rfl
        · rfl
        · rfl
        · rfl
      unfold Flow.signed
      simp only [moveTo?_eq_ok hLeads]
      apply continues_waiting hTold hMoved hBroadcasting.publish
      · rw [publish_stage]
        exact Stage.noConfusion
      · exact ⟨draft, scope, start, ⟨_, rfl⟩⟩
      · exact fun _ _ => EngineCall.noConfusion
      · intro reply earlier _ hTold hAccords
        cases reply with
        | ok txid =>
            exact continues_complete hTold hAccords (publish_stage _)
        | error cause =>
            apply continues_fail hTold hAccords
            · exact Or.inr (publish_stage _)
            · rfl
            · intro signed txid hFound
              cases hFound

/-
  The draft that is put to be signed is the one that was built
  last: nothing but a snapshot came after the confirmation.
-/
theorem Rests.signs
    {draft : Draft}
    (h : Rests config log f)
    (hStage : f.stage = .reviewing)
    (hDraft : f.draft = some draft)
    (hMatches : draft.Matches f.composition.fingerprint) :
    Signs config
      (Log.show (.asked .confirm :: log) f
        { f with stage := .signing }.publish)
      { f with stage := .signing }.publish draft
      f.composition.scope := by
  have hAgrees :=
    Log.agrees_shown
      (shownSince { f with stage := .signing }.publish f)
      (.asked .confirm :: log)
  have hFresh := not_isStale_iff.mp (h.settled.not_stale hStage)
  constructor
  · unfold HoldsBuilt Log.show
    rw [publish_draft, publish_composition, hAgrees.draft]
    exact (h.ask .confirm).2.built hStage
  · rw [publish_draft]
    exact hDraft
  · rw [publish_composition]
    exact hMatches
  · rw [publish_composition]
    exact hFresh.2
  · rw [publish_composition]

/-
  Confirming keeps to the account: the draft under review is not
  stale, and so it is signed.
-/
theorem continues_confirm
    (h : Rests config log f) :
    (account config).Continues .confirm (.asked .confirm :: log) f
      f.confirm := by
  have hAsked := h.ask .confirm
  by_cases hStage : f.stage = .reviewing
  · have hOpen : f.stage ≠ .complete := by
      rw [hStage]
      exact Stage.noConfusion
    rcases not_isStale_iff.mp (h.settled.not_stale hStage) with
      ⟨⟨draft, hDraft, hMatches⟩, _⟩
    have hMoved : Moved f { f with stage := .signing }.publish := by
      apply moved_to rfl
      rw [hStage]
      decide
    have hSigning :
        Accords config (.asked .confirm :: log)
          { f with stage := .signing } := by
      apply hAsked.2.carry
      · rw [hStage]
        decide
      · exact hOpen
      · exact Or.inl rfl
      · rfl
      · rfl
      · rfl
    have hSigns := h.signs hStage hDraft hMatches
    rw [confirm_eq_waiting hStage hDraft hMatches]
    apply continues_waiting hAsked.1 hMoved hSigning.publish
    · rw [publish_stage]
      exact Stage.noConfusion
    · rcases hSigns.built with
        ⟨built, p, hNetwork, hFound, hHeld, _⟩
      refine ⟨built, p, hNetwork, hFound, ?_⟩
      exact Option.some.inj (hSigns.draft_eq.symm.trans hHeld)
    · intro draft' scope' hCall
      cases hCall
      exact hSigns
    · intro reply earlier _ hTold hAccords
      exact continues_signed hTold hAccords (publish_stage _)
  · unfold confirm
    rw [if_neg hStage]
    apply continues_refused h
    exact Verdict.isOrdinary_notPermitted f "confirm"

end Flow

end Remit
