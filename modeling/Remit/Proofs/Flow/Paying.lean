import Remit.Proofs.Flow.Accounted

/-
  This file shows that whatever can be paid is paid by an engine
  that does not fail: rows can be entered together with a
  balance, a valid composition comes to its signature, and what
  was signed is broadcast. A payment that has failed comes to be
  composed again.

  Key definitions include:
    * `Flow.Run.sendCalls`

  Key theorems include:
    * `Flow.Run.reachable_entered`
    * `Flow.Run.Reachable.signing_of_composing`
    * `Flow.Run.Reachable.complete`
    * `Flow.Run.Reachable.retried`
-/

namespace Remit

namespace Flow

variable {config : Config} {log : Log} {f : Flow}

------------------------------------------------------------
-- Entering
------------------------------------------------------------

/- A new flow that has come to compose a payment. -/
def composing (config : Config) (c : Composition) : Flow :=
  { new config with stage := .composing, composition := c }

/- A new flow starts if rows are allowed. -/
theorem perform_start_new
    (hMost : 0 < config.maxRecipients) :
    (new config).perform .start =
      .ended
        (composing config
          ((Composition.new config).setRows [Recipient.blank]))
        .done := by
  have hAdd :
      (new config).composition.enter (.add Recipient.blank) =
        .ok ((Composition.new config).setRows [Recipient.blank]) :=
    if_neg (Nat.not_le.mpr hMost)
  have hFirst :
      (new config).renew.forget.firstRow? =
        .ok
          { new config with
            composition :=
              (Composition.new config).setRows [Recipient.blank] } := by
    have hNone : (new config).composition.rows = [] := rfl
    rw [renew_forget_of_idle rfl rfl]
    unfold firstRow?
    rw [if_pos hNone, hAdd]
  have hStage : (new config).stage ∈ [Stage.idle, .complete] :=
    List.mem_cons_self
  refine (start_eq_ended hStage hFirst).trans ?_
  unfold goTo
  rw [publish_of_unsubscribed rfl]
  rfl

/- A change is taken while a payment is composed unseen. -/
theorem perform_change_composing
    {c d : Composition}
    {change : Change}
    (hChanged :
      (composing config c).changed change =
        .ok (composing config d)) :
    (composing config c).perform (.change change) =
      .ended (composing config d) .done := by
  have hStage :
      (composing config c).stage ∈ [Stage.composing, .reviewing] :=
    List.mem_cons_self
  refine (change_eq_ended hStage hChanged).trans ?_
  unfold goTo
  rw [publish_of_unsubscribed rfl]
  rfl

/- Rows are taken over from a file if they are within the limit. -/
theorem perform_load
    {c : Composition}
    {rows : List ImportRow}
    (hFits : rows.length ≤ c.inputs.config.maxRecipients) :
    (composing config c).perform (.change (.enter (.load rows))) =
      .ended
        (composing config
          (c.setRows (rows.map ImportRow.toRecipient)))
        .done := by
  have hLoad :
      (composing config c).composition.enter (.load rows) =
        .ok (c.setRows (rows.map ImportRow.toRecipient)) :=
    if_neg (Nat.not_lt.mpr hFits)
  apply perform_change_composing
  simp only [changed, hLoad]
  rfl

/- Outside the review nothing is stale, and nothing is shown. -/
theorem refreshed_of_unsubscribed
    (hStage : f.stage ≠ .reviewing)
    (hNone : f.published = []) :
    f.refreshed = .ended f (.refreshed true) := by
  unfold refreshed
  rw [dropStale_eq_self (fun h => hStage h.1),
    publish_of_unsubscribed hNone]

namespace Run

/-
  Rows within the limit can be entered, and the engine can come
  up with any balance, before anything is built.
-/
theorem reachable_entered
    (config : Config)
    {rows : List ImportRow}
    (balance : Balance)
    (hSome : rows ≠ [])
    (hFits : rows.length ≤ config.maxRecipients) :
    ∃ (f : Flow) (log : Log),
      Reachable config ⟨.resting f, log⟩ ∧
        f.stage = .composing ∧
        f.composition =
          ((Composition.new config).setRows
            (rows.map ImportRow.toRecipient)).setBalance balance ∧
        log.calls = [.balance .auto, .sources] := by
  have hMost : 0 < config.maxRecipients := by
    have hLength := List.length_pos_iff.mpr hSome
    omega
  have hStarted :=
    ((@Reachable.new config).ask (perform_start_new hMost)).rest
  have hLoaded := (hStarted.ask (perform_load hFits)).rest
  have hListed :=
    (hLoaded.ask (a := .refreshBalances) rfl).answer (.ok []) rfl
  have hRefreshed :=
    (hListed.answer (.ok balance)
      (refreshed_of_unsubscribed Stage.noConfusion rfl)).rest
  exact ⟨_, _, hRefreshed, rfl, rfl, rfl⟩

------------------------------------------------------------
-- Sending
------------------------------------------------------------

/- A valid composition comes to the review of what was built. -/
theorem Reachable.reviewing
    {r : Request}
    (hr : Reachable config ⟨.resting f, log⟩)
    (hStage : f.stage = .composing)
    (hValid : f.composition.validate = .ok r)
    (built : Draft) :
    ∃ (g : Flow) (log' : Log),
      Reachable config ⟨.resting g, log'⟩ ∧
        g.stage = .reviewing ∧
        g.composition = f.composition ∧
        g.draft = some (built.stamped r.fingerprint) ∧
        log'.calls =
          .build r.payment.outputs r.payment.scope r.payment.fee ::
            log.calls := by
  have hBuilding :=
    hr.ask (a := .review) (review_eq_waiting hStage hValid)
  have hBuilt :=
    hBuilding.answer (.ok built)
      (built_ok_eq_ended (goTo_stage f.forget .building) r built)
  have hReviewing := hBuilt.rest
  refine ⟨_, _, hReviewing, ?_, ?_, ?_, ?_⟩
  · rw [goTo_stage]
  · rw [goTo_composition]
    exact goTo_composition f.forget .building
  · rw [goTo_draft]
  · refine (Log.calls_show _ _ _).trans ?_
    refine congrArg (_ :: ·) ?_
    exact Log.calls_show _ _ _

/-
  A draft under review comes to its signature, if it agrees with
  the composition.
-/
theorem Reachable.signing
    {draft : Draft}
    (hr : Reachable config ⟨.resting f, log⟩)
    (hStage : f.stage = .reviewing)
    (hDraft : f.draft = some draft)
    (hMatches : draft.Matches f.composition.fingerprint) :
    ∃ (g : Flow) (log' : Log),
      Reachable config
          ⟨.working .confirm
              (.waiting g (.sign draft f.composition.scope)
                (fun reply => g.signed reply)),
            log'⟩ ∧
        g.stage = .signing ∧
        g.composition = f.composition ∧
        log'.calls =
          .sign draft f.composition.scope :: log.calls := by
  have hSigning :=
    hr.ask (a := .confirm)
      (confirm_eq_waiting hStage hDraft hMatches)
  refine ⟨_, _, hSigning, ?_, ?_, ?_⟩
  · rw [publish_stage]
  · rw [publish_composition]
  · exact congrArg (_ :: ·) (Log.calls_show _ _ _)

/- What was signed comes to be broadcast. -/
theorem Reachable.broadcasting
    {draft : Draft}
    {scope : Scope}
    (hr :
      Reachable config
        ⟨.working .confirm
            (.waiting f (.sign draft scope)
              (fun reply => f.signed reply)),
          log⟩)
    (hStage : f.stage = .signing)
    (signed : Signed) :
    ∃ (g : Flow) (log' : Log),
      Reachable config
          ⟨.working .confirm
              (.waiting g (.broadcast signed)
                (fun reply => g.sent reply)),
            log'⟩ ∧
        g.stage = .broadcasting ∧
        g.composition = f.composition ∧
        log'.calls = .broadcast signed :: log.calls := by
  have hBroadcast :=
    hr.answer (.ok signed) (signed_ok_eq_waiting hStage signed)
  refine ⟨_, _, hBroadcast, ?_, ?_, ?_⟩
  · rw [goTo_stage]
  · rw [goTo_composition]
  · exact congrArg (_ :: ·) (Log.calls_show _ _ _)

/- A payment that was broadcast is complete. -/
theorem Reachable.complete
    {signed : Signed}
    (hr :
      Reachable config
        ⟨.working .confirm
            (.waiting f (.broadcast signed)
              (fun reply => f.sent reply)),
          log⟩)
    (hStage : f.stage = .broadcasting)
    (txid : String) :
    ∃ (g : Flow) (log' : Log),
      Reachable config ⟨.resting g, log'⟩ ∧
        g.stage = .complete ∧
        g.txid = some txid ∧
        log'.calls = log.calls := by
  have hSent :=
    hr.answer (.ok txid) (sent_ok_eq_ended hStage txid)
  refine ⟨_, _, hSent.rest, ?_, ?_, ?_⟩
  · rw [goTo_stage]
  · rw [goTo_txid]
  · exact Log.calls_show _ _ _

/- A valid composition comes to the signature of what was built. -/
theorem Reachable.signing_of_composing
    {r : Request}
    (hr : Reachable config ⟨.resting f, log⟩)
    (hStage : f.stage = .composing)
    (hValid : f.composition.validate = .ok r)
    (built : Draft) :
    ∃ (g : Flow) (log' : Log),
      Reachable config
          ⟨.working .confirm
              (.waiting g
                (.sign (built.stamped r.fingerprint)
                  g.composition.scope)
                (fun reply => g.signed reply)),
            log'⟩ ∧
        g.stage = .signing ∧
        g.composition = f.composition ∧
        log'.calls =
          .sign (built.stamped r.fingerprint) f.composition.scope ::
            .build r.payment.outputs r.payment.scope r.payment.fee ::
              log.calls := by
  rcases hr.reviewing hStage hValid built with
    ⟨g, log', hReviewed, hReviewing, hSame, hDraft, hBuilt⟩
  have hRequest := Composition.validate_eq_ok_iff.mp hValid
  have hMatches :
      (built.stamped r.fingerprint).Matches
        g.composition.fingerprint := by
    rw [hSame, hRequest.2]
    rfl
  rcases hReviewed.signing hReviewing hDraft hMatches with
    ⟨h, log'', hSigned, hSigning, hKept, hCalled⟩
  rw [← hKept] at hSigned
  refine ⟨h, log'', hSigned, hSigning, hKept.trans hSame, ?_⟩
  rw [hCalled, hBuilt, hSame]

/-
  What the engine is called for when a request is sent, the
  latest first: a broadcast, a signature and a build.
-/
def sendCalls
    (r : Request)
    (built : Draft)
    (signed : Signed) : List EngineCall :=
  [.broadcast signed,
   .sign (built.stamped r.fingerprint) r.payment.scope,
   .build r.payment.outputs r.payment.scope r.payment.fee]

/- A valid composition comes to be broadcast. -/
theorem Reachable.broadcasting_of_composing
    {r : Request}
    (hr : Reachable config ⟨.resting f, log⟩)
    (hStage : f.stage = .composing)
    (hValid : f.composition.validate = .ok r)
    (built : Draft)
    (signed : Signed) :
    ∃ (g : Flow) (log' : Log),
      Reachable config
          ⟨.working .confirm
              (.waiting g (.broadcast signed)
                (fun reply => g.sent reply)),
            log'⟩ ∧
        g.stage = .broadcasting ∧
        g.composition = f.composition ∧
        log'.calls = sendCalls r built signed ++ log.calls := by
  rcases hr.signing_of_composing hStage hValid built with
    ⟨g, log', hSigned, hSigning, hSame, hCalled⟩
  rcases hSigned.broadcasting hSigning signed with
    ⟨h, log'', hSent, hSending, hKept, hCalls⟩
  have hRequest := Composition.validate_eq_ok_iff.mp hValid
  have hScope : f.composition.scope = r.payment.scope := by
    rw [hRequest.2]
    rfl
  refine ⟨h, log'', hSent, hSending, hKept.trans hSame, ?_⟩
  rw [hCalls, hCalled, hScope]
  rfl

/-
  Whatever can be paid is paid: rows whose composition is valid
  with some balance come to a signature of the draft that is
  built for them, in some run.
-/
theorem signing_of_valid
    (config : Config)
    {rows : List ImportRow}
    {balance : Balance}
    {r : Request}
    (hSome : rows ≠ [])
    (hFits : rows.length ≤ config.maxRecipients)
    (hValid :
      (((Composition.new config).setRows
          (rows.map ImportRow.toRecipient)).setBalance
        balance).validate = .ok r)
    (built : Draft) :
    ∃ (f : Flow) (log : Log),
      Reachable config
          ⟨.working .confirm
              (.waiting f
                (.sign (built.stamped r.fingerprint)
                  f.composition.scope)
                (fun reply => f.signed reply)),
            log⟩ ∧
        f.stage = .signing ∧
        f.composition.payment = r.payment ∧
        log.payments config.network = [r.payment] := by
  rcases reachable_entered config balance hSome hFits with
    ⟨f, log, hEntered, hComposing, hComposition, hListed⟩
  rw [← hComposition] at hValid
  rcases hEntered.signing_of_composing hComposing hValid built with
    ⟨g, log', hSigned, hSigning, hSame, hCalled⟩
  have hRequest := Composition.validate_eq_ok_iff.mp hValid
  have hSound :=
    Composition.sound_of_reachable hEntered.accords.composed
  have hNetwork := Composition.network_of_validate hSound hValid
  refine ⟨g, log', hSigned, hSigning, ?_, ?_⟩
  · rw [hSame, hRequest.2]
  · rw [Log.payments_eq, hCalled, hListed, ← hNetwork]
    rfl

------------------------------------------------------------
-- Failing
------------------------------------------------------------

/- A payment that could not be signed or broadcast has failed. -/
theorem Reachable.failed
    {call : EngineCall}
    {resume : call.Reply → Progress}
    {cause : EngineError}
    (hr :
      Reachable config
        ⟨.working .confirm (.waiting f call resume), log⟩)
    (reply : call.Reply)
    (hFails : resume reply = f.fail cause)
    (hStage : f.stage = .signing ∨ f.stage = .broadcasting) :
    ∃ (g : Flow) (log' : Log),
      Reachable config ⟨.resting g, log'⟩ ∧
        g.stage = .failed ∧
        g.composition = f.composition ∧
        log'.calls = log.calls := by
  have hFailed :=
    hr.answer reply (hFails.trans (fail_eq_ended hStage cause))
  refine ⟨_, _, hFailed.rest, ?_, ?_, ?_⟩
  · rw [goTo_stage]
  · rw [goTo_composition]
    rfl
  · exact Log.calls_show _ _ _

/- A payment that has failed comes to be composed again. -/
theorem Reachable.retried
    (hr : Reachable config ⟨.resting f, log⟩)
    (hStage : f.stage = .failed) :
    ∃ (g : Flow) (log' : Log),
      Reachable config ⟨.resting g, log'⟩ ∧
        g.stage = .composing ∧
        g.composition = f.composition ∧
        log'.calls = log.calls := by
  have hRetried := hr.ask (a := .retry) (retry_eq_ended hStage)
  refine ⟨_, _, hRetried.rest, ?_, ?_, ?_⟩
  · rw [goTo_stage]
  · rw [goTo_composition]
    rfl
  · exact Log.calls_show _ _ _

------------------------------------------------------------
-- A Payment of One Row
------------------------------------------------------------

/- The row that is paid, as it stands in a file. -/
def specimen : ImportRow where
  number := 1
  address := Composition.specimen.address
  amount := Composition.specimen.amountText
  memo := none
  label := none

/- The draft that an engine may build for it. -/
def specimenDraft : Draft where
  id := 0
  outputs := []
  fee := .zero
  totalAmount := .zero
  change := .zero
  inputTotal := .zero
  numInputs := 1
  expiryHeight := 0
  createdAt := ⟨0, 0⟩
  fingerprint := none

/- The draft that the engine may build when it is asked again. -/
def rebuiltDraft : Draft :=
  { specimenDraft with id := 1 }

/- The row can be paid out of the whole supply. -/
theorem isEmpty_problems_specimen :
    (((Composition.new (Config.ofNetwork .mainnet)).setRows
        [specimen.toRecipient]).setBalance
      ⟨.supply, .zero⟩).problems.IsEmpty := by
  decide +kernel

/- The one row comes to be composed, with the whole supply. -/
theorem composing_affluent :
    ∃ (f : Flow) (log : Log),
      Reachable (Config.ofNetwork .mainnet) ⟨.resting f, log⟩ ∧
        f.stage = .composing ∧
        f.composition =
          ((Composition.new (Config.ofNetwork .mainnet)).setRows
            [specimen.toRecipient]).setBalance ⟨.supply, .zero⟩ ∧
        f.composition.problems.IsEmpty := by
  have hSome : [specimen] ≠ [] := List.cons_ne_nil _ _
  have hFits :
      [specimen].length ≤
        (Config.ofNetwork .mainnet).maxRecipients := by
    decide
  rcases reachable_entered (Config.ofNetwork .mainnet)
      ⟨.supply, .zero⟩ hSome hFits with
    ⟨f, log, hEntered, hComposing, hComposition, _⟩
  refine ⟨f, log, hEntered, hComposing, hComposition, ?_⟩
  rw [hComposition]
  exact isEmpty_problems_specimen

/- The one row comes to the review, for the whole supply. -/
theorem reviewing_affluent :
    ∃ (f : Flow) (log : Log),
      Reachable (Config.ofNetwork .mainnet) ⟨.resting f, log⟩ ∧
        f.stage = .reviewing ∧
        f.composition =
          ((Composition.new (Config.ofNetwork .mainnet)).setRows
            [specimen.toRecipient]).setBalance ⟨.supply, .zero⟩ := by
  rcases composing_affluent with
    ⟨f, log, hEntered, hComposing, hComposition, hEmpty⟩
  have hValid := Composition.validate_eq_ok_iff.mpr ⟨hEmpty, rfl⟩
  rcases hEntered.reviewing hComposing hValid specimenDraft with
    ⟨g, log', hReviewed, hReviewing, hSame, _⟩
  exact
    ⟨g, log', hReviewed, hReviewing, hSame.trans hComposition⟩

/- The one row comes to the review of a draft. -/
theorem reviewing_specimen :
    ∃ (f : Flow) (log : Log) (draft : Draft),
      Reachable (Config.ofNetwork .mainnet) ⟨.resting f, log⟩ ∧
        f.stage = .reviewing ∧
        f.draft = some draft ∧
        draft.Matches f.composition.fingerprint := by
  rcases reviewing_affluent with ⟨f, log, hReviewed, hReviewing, _⟩
  rcases not_isStale_iff.mp
      (hReviewed.settled.not_stale hReviewing) with
    ⟨⟨draft, hDraft, hMatches⟩, _⟩
  exact ⟨f, log, draft, hReviewed, hReviewing, hDraft, hMatches⟩

/- The one row comes to its signature. -/
theorem signing_specimen :
    ∃ (f : Flow) (log : Log) (r : Request),
      Reachable (Config.ofNetwork .mainnet)
          ⟨.working .confirm
              (.waiting f
                (.sign (specimenDraft.stamped r.fingerprint)
                  f.composition.scope)
                (fun reply => f.signed reply)),
            log⟩ ∧
        f.stage = .signing ∧
        f.composition.payment = r.payment ∧
        log.payments .mainnet = [r.payment] := by
  have hValid :=
    Composition.validate_eq_ok_iff.mpr
      ⟨isEmpty_problems_specimen, rfl⟩
  have hSome : [specimen] ≠ [] := List.cons_ne_nil _ _
  have hFits :
      [specimen].length ≤
        (Config.ofNetwork .mainnet).maxRecipients := by
    decide
  rcases signing_of_valid (Config.ofNetwork .mainnet) hSome hFits
      hValid specimenDraft with
    ⟨f, log, h⟩
  exact ⟨f, log, _, h⟩

/-
  The one row is sent again after its broadcast failed: it is
  built, signed and broadcast once more, and is complete then.
-/
theorem complete_after_retry :
    ∃ (f : Flow) (log : Log) (r : Request)
        (earlier : List EngineCall),
      Reachable (Config.ofNetwork .mainnet) ⟨.resting f, log⟩ ∧
        f.stage = .complete ∧
        log.calls =
          sendCalls r rebuiltDraft ⟨"b", []⟩ ++
            (sendCalls r specimenDraft ⟨"a", []⟩ ++ earlier) := by
  rcases composing_affluent with
    ⟨f, log₀, hEntered, hComposing, _, hEmpty⟩
  rcases Composition.exists_validate_iff.mpr hEmpty with ⟨r, hValid⟩
  rcases hEntered.broadcasting_of_composing hComposing hValid
      specimenDraft ⟨"a", []⟩ with
    ⟨_, _, hSent, hSending, hSame, hCalls⟩
  rcases hSent.failed (.error ⟨.network, "refused"⟩) rfl
      (Or.inr hSending) with
    ⟨_, _, hEnded, hFailed, hFailedSame, hFailedCalls⟩
  rcases hEnded.retried hFailed with
    ⟨g, _, hRetried, hAgain, hRetriedSame, hRetriedCalls⟩
  have hKept : g.composition = f.composition := by
    rw [hRetriedSame, hFailedSame, hSame]
  rw [← hKept] at hValid
  rcases hRetried.broadcasting_of_composing hAgain hValid
      rebuiltDraft ⟨"b", []⟩ with
    ⟨_, _, hResent, hResending, _, hResentCalls⟩
  rcases hResent.complete hResending "b" with
    ⟨h, log, hDone, hComplete, _, hDoneCalls⟩
  refine ⟨h, log, r, log₀.calls, hDone, hComplete, ?_⟩
  rw [hDoneCalls, hResentCalls, hRetriedCalls, hFailedCalls, hCalls]

end Run

end Flow

end Remit
