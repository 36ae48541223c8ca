import Remit.Proofs.Flow.Paying

/-
  This file shows that no draft is sent twice: between any two
  signatures, and between any two broadcasts, the engine has
  built a draft anew, and what is broadcast is what was signed
  right before.

  Key definitions include:
    * `Flow.Run.SendsOnce`

  Key theorems include:
    * `Flow.Run.Reachable.built_between`
    * `Flow.Run.sendsOnce_of_reachable`
-/

namespace Remit

namespace Flow

variable {config : Config}

/-
  What is found last, in front of another event of its kind,
  came in between.
-/
private theorem mem_of_find?_append
    {p : Event → Bool}
    {e found : Event}
    {between earlier : Log}
    (he : p e = true)
    (hFound : (between ++ e :: earlier).find? p = some found)
    (hNe : found ≠ e) :
    found ∈ between := by
  rw [List.find?_append] at hFound
  cases hBetween : between.find? p with
  | some last =>
      rw [hBetween] at hFound
      cases hFound
      exact List.mem_of_find?_eq_some hBetween
  | none =>
      rw [hBetween, List.find?_cons_of_pos he] at hFound
      cases hFound
      exact absurd rfl hNe

namespace Run

/-
  Between anything that touched a draft and a later signature
  the engine has built the draft that is signed.
-/
theorem Reachable.built_between
    {r : Run}
    {later between earlier : Log}
    {draft : Draft}
    {scope : Scope}
    {e : Event}
    (hr : Reachable config r)
    (hLog :
      r.log =
        later ++
          .called (.sign draft scope) ::
            (between ++ e :: earlier))
    (hTouches : e.touchesDraft = true)
    (hOther :
      ∀ outputs scope fee reply,
        e ≠ .replied (.build outputs scope fee) reply) :
    ∃ (p : Payment) (built : Draft),
      .replied (.build p.outputs p.scope p.fee) (.ok built) ∈
          between ∧
        draft = built.stamped p.fingerprint := by
  rcases hr.isJustified hLog with ⟨built, p, _, hFound, hDraft⟩
  refine ⟨p, built, ?_, hDraft⟩
  apply mem_of_find?_append hTouches hFound
  exact (hOther p.outputs p.scope p.fee (.ok built)).symm

/-
  What a run sends, where the events of its log stand latest
  first:
    * between two signatures the later draft was built;
    * a broadcast carries the signature right before it;
    * between two broadcasts a draft was built;
    * a build is called for by a review that began while
      composing, with the request that was just found;
    * the identifier is that of the latest broadcast, if this
      succeeded and no payment was started since.
-/
structure SendsOnce (config : Config) (r : Run) : Prop where
  signed :
    ∀ later draft scope between draft' scope' earlier,
      r.log =
          later ++
            .called (.sign draft scope) ::
              (between ++ .called (.sign draft' scope') :: earlier) →
        ∃ (p : Payment) (built : Draft),
          .replied (.build p.outputs p.scope p.fee) (.ok built) ∈
              between ∧
            draft = built.stamped p.fingerprint
  broadcast :
    ∀ (later : Log) (signed : Signed) (earlier : Log),
      r.log = later ++ .called (.broadcast signed) :: earlier →
        ∃ (draft : Draft) (scope : Scope) (start : Log),
          earlier.Follows
            (.replied (.sign draft scope) (.ok signed) ::
              .called (.sign draft scope) :: start)
  rebroadcast :
    ∀ later signed between signed' earlier,
      r.log =
          later ++
            .called (.broadcast signed) ::
              (between ++ .called (.broadcast signed') :: earlier) →
        ∃ (p : Payment) (built : Draft),
          .replied (.build p.outputs p.scope p.fee) (.ok built) ∈
            between
  built :
    ∀ (later : Log)
        (outputs : List Output)
        (scope : Scope)
        (fee : Amount)
        (earlier : Log),
      r.log =
          later ++ .called (.build outputs scope fee) :: earlier →
        ∃ (f : Flow) (start : Log) (request : Request),
          earlier.Follows (.asked .review :: start) ∧
            Reachable config ⟨.resting f, start⟩ ∧
            f.stage = .composing ∧
            f.composition.validate = .ok request ∧
            request.payment.outputs = outputs ∧
            request.payment.scope = scope ∧
            request.payment.fee = fee
  txid_iff :
    ∀ txid, r.flow.txid = some txid ↔
      ∃ (between earlier : Log) (signed : Signed),
        r.log =
            between ++
              .replied (.broadcast signed) (.ok txid) :: earlier ∧
          ∀ e ∈ between, e.settlesTxid = false

/- No run sends a draft twice. -/
theorem sendsOnce_of_reachable
    {r : Run}
    (hr : Reachable config r) :
    r.SendsOnce config where
  signed := by
    intro later draft scope between draft' scope' earlier hLog
    apply hr.built_between hLog rfl
    exact fun _ _ _ _ => Event.noConfusion
  broadcast := by
    intro later signed earlier hLog
    exact hr.isJustified hLog
  rebroadcast := by
    intro later signed between signed' earlier hLog
    rcases hr.isJustified hLog with ⟨draft, scope, start, hFollows⟩
    have hSigned :
        Event.called (.sign draft scope) ∈ between := by
      rcases hFollows with ⟨ss, hShown⟩
      have hFound :
          (between ++ .called (.broadcast signed') :: earlier).find?
              Event.touchesDraft =
            some (.called (.sign draft scope)) := by
        rw [hShown, (Log.agrees_shown ss _).draft]
        rfl
      apply mem_of_find?_append rfl hFound
      intro hEq
      cases hEq
    rcases List.append_of_mem hSigned with ⟨front, back, rfl⟩
    have hSplit :
        r.log =
          (later ++ .called (.broadcast signed) :: front) ++
            .called (.sign draft scope) ::
              (back ++ .called (.broadcast signed') :: earlier) := by
      rw [hLog]
      simp only [List.append_assoc, List.cons_append]
    rcases hr.built_between hSplit rfl
        (fun _ _ _ _ => Event.noConfusion) with
      ⟨p, built, hBuilt, _⟩
    refine ⟨p, built, ?_⟩
    apply List.mem_append_right
    exact List.mem_cons_of_mem _ hBuilt
  built := by
    intro later outputs scope fee earlier hLog
    exact hr.isJustified hLog
  txid_iff := by
    intro txid
    rw [hr.accords.txid_eq]
    constructor
    · rintro ⟨signed, hFound⟩
      rcases List.find?_eq_some_iff_append.mp hFound with
        ⟨_, between, earlier, hLog, hBetween⟩
      refine ⟨between, earlier, signed, hLog, ?_⟩
      intro e he
      simpa using hBetween e he
    · rintro ⟨between, earlier, signed, hLog, hBetween⟩
      refine ⟨signed, List.find?_eq_some_iff_append.mpr ?_⟩
      refine ⟨rfl, between, earlier, hLog, ?_⟩
      intro e he
      simpa using hBetween e he

/-
  A payment whose broadcast failed is complete once it was sent
  again. Two drafts were signed for it, and what was signed was
  broadcast both times, but no draft was sent twice.
-/
theorem sendsOnce_of_reachable_specimen :
    ∃ (f : Flow) (log : Log) (draft draft' : Draft) (scope : Scope)
        (signed signed' : Signed),
      Reachable (Config.ofNetwork .mainnet) ⟨.resting f, log⟩ ∧
        f.stage = .complete ∧
        draft ≠ draft' ∧
        (∃ later between earlier,
          log =
            later ++
              .called (.sign draft scope) ::
                (between ++
                  .called (.sign draft' scope) :: earlier)) ∧
        (∃ later between earlier,
          log =
            later ++
              .called (.broadcast signed) ::
                (between ++
                  .called (.broadcast signed') :: earlier)) ∧
        SendsOnce (Config.ofNetwork .mainnet)
          ⟨.resting f, log⟩ := by
  rcases complete_after_retry with
    ⟨f, log, r, calls, hSent, hComplete, hCalls⟩
  have hSigned := Log.calls_eq_append_append [_] [_, _] hCalls
  have hBroadcast := Log.calls_eq_append_append [] [_, _] hCalls
  refine
    ⟨f, log, _, _, _, _, _, hSent, hComplete, ?_, hSigned,
      hBroadcast, sendsOnce_of_reachable hSent⟩
  intro hSame
  have hId := congrArg Draft.id hSame
  change rebuiltDraft.id = specimenDraft.id at hId
  exact absurd hId (by decide)

end Run

end Flow

end Remit
