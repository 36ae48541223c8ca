import Remit.Proofs.Flow.Paying
import Remit.Proofs.Payment.CanonicalText

/-
  This file shows that what is signed is what was built and
  reviewed: the draft that the engine built last, for the very
  request that the composition is still valid with.

  Key definitions include:
    * `Flow.Log.HasBuilt`

  Key theorems include:
    * `Flow.Run.Reachable.hasBuilt`
    * `Flow.Run.sign_of_reachable`
-/

namespace Remit

namespace Flow

variable {config : Config}

------------------------------------------------------------
-- Builds
------------------------------------------------------------

/-
  The engine built a draft for the request that a composition
  was found valid with at its review, and nothing touched the
  draft since: there was no other build, no change was applied,
  and nothing was signed or broadcast.
-/
def Log.HasBuilt
    (config : Config)
    (log : Log)
    (r : Request)
    (built : Draft) : Prop :=
  ∃ (between earlier start : Log) (f : Flow),
    log =
        between ++
          .replied
              (.build r.payment.outputs r.payment.scope
                r.payment.fee)
              (.ok built) ::
            .called
                (.build r.payment.outputs r.payment.scope
                  r.payment.fee) ::
              earlier ∧
      (∀ e ∈ between, e.touchesDraft = false) ∧
      earlier.Follows (.asked .review :: start) ∧
      Run.Reachable config ⟨.resting f, start⟩ ∧
      f.composition.validate = .ok r

/-
  In a log that is accounted for, the build that touched the
  draft last was called for by a request.
-/
theorem Log.IsJustified.hasBuilt
    {log : Log}
    {p : Payment}
    {built : Draft}
    (h : log.IsJustified config)
    (hNetwork : p.network = config.network)
    (hFound :
      log.find? Event.touchesDraft =
        some (.replied (.build p.outputs p.scope p.fee)
          (.ok built))) :
    ∃ r : Request,
      r.payment = p ∧ log.HasBuilt config r built ∧
        p ∈ log.payments config.network := by
  rcases List.find?_eq_some_iff_append.mp hFound with
    ⟨_, between, rest, rfl, hBetween⟩
  have hReplied := h.earlier
  rcases hReplied.1 with ⟨earlier, rfl⟩
  rcases hReplied.2.1 with
    ⟨f, start, r, hFollows, hReachable, _, hValid, hOutputs,
      hScope, hFee⟩
  have hSound :=
    Composition.sound_of_reachable hReachable.accords.composed
  have hOn := Composition.network_of_validate hSound hValid
  have hSame : r.payment = p :=
    Payment.ext (hOn.trans hNetwork.symm) hOutputs hFee hScope
  subst hSame
  refine ⟨r, rfl, ?_, ?_⟩
  · refine
      ⟨between, earlier, start, f, rfl, ?_, hFollows, hReachable,
        hValid⟩
    intro e he
    simpa using hBetween e he
  · unfold Log.payments
    rw [← hNetwork]
    apply List.mem_filterMap.mpr
    refine
      ⟨.called
          (.build r.payment.outputs r.payment.scope r.payment.fee),
        ?_, rfl⟩
    apply List.mem_append_right
    apply List.mem_cons_of_mem
    exact List.mem_cons_self

------------------------------------------------------------
-- Signatures
------------------------------------------------------------

namespace Run

/-
  Whenever the engine is asked to sign, it is given the draft
  that it built last, with the fingerprint of the request that
  it was built for. No change was applied since, the composition
  is valid with that same request, and it is signed in the scope
  of the request; unless the texts of two payments share a
  digest.
-/
theorem sign_of_reachable
    {a : Action}
    {f : Flow}
    {draft : Draft}
    {scope : Scope}
    {resume : (EngineCall.sign draft scope).Reply → Progress}
    {log : Log}
    (hReachable :
      Reachable config
        ⟨.working a (.waiting f (.sign draft scope) resume), log⟩)
    (hSeparates :
      Sha256.Separates
        ((f.composition.payment :: log.payments config.network).map
          Payment.canonicalText)) :
    ∃ (r : Request) (built : Draft) (earlier : Log),
      log = .called (.sign draft scope) :: earlier ∧
        earlier.HasBuilt config r built ∧
        draft = built.stamped r.fingerprint ∧
        f.composition.validate = .ok r ∧
        scope = r.payment.scope := by
  have hCalls := hReachable.calls
  rcases hCalls.called with ⟨earlier, rfl, hSigns⟩
  have hSigned := hSigns draft scope rfl
  have hJustified : Log.IsJustified config earlier :=
    hCalls.told.justified.2
  have hComposed := hCalls.accords.composed
  have hSound := Composition.sound_of_reachable hComposed
  rcases hSigned.built with
    ⟨built, p, hNetwork, hFound, hHeld, hOutputs⟩
  rcases hJustified.hasBuilt hNetwork hFound with
    ⟨r, rfl, hBuilt, hMem⟩
  have hHasBuilt := hBuilt
  rcases hBuilt with
    ⟨_, _, start, g, _, _, _, hStart, hValid⟩
  have hFirst :=
    Composition.sound_of_reachable hStart.accords.composed
  have hDraft : draft = built.stamped r.payment.fingerprint :=
    Option.some.inj (hSigned.draft_eq.symm.trans hHeld)
  have hPayment : r.payment = f.composition.payment := by
    apply Payment.eq_of_fingerprint hSeparates
    · exact List.mem_cons_of_mem _ hMem
    · exact List.mem_cons_self
    · exact hOutputs.symm
    · have hMatches := hSigned.agrees
      rw [hDraft] at hMatches
      exact Option.some.inj hMatches
  have hNow : f.composition.validate = .ok r :=
    Composition.validate_of_payment hFirst hSound hValid
      hSigned.valid hPayment
  refine ⟨r, built, earlier, rfl, hHasBuilt, ?_, hNow, ?_⟩
  · rw [hDraft]
    rw [Composition.fingerprint_of_validate hValid]
  · rw [hSigned.scope_eq, hPayment]
    rfl

/-
  In the run of one payment its one draft is signed. The texts
  of the payment in the log and of the composition are the same.
-/
theorem sign_of_reachable_specimen :
    ∃ (f : Flow) (r : Request) (log earlier : Log),
      Reachable (Config.ofNetwork .mainnet)
          ⟨.working .confirm
              (.waiting f
                (.sign (specimenDraft.stamped r.fingerprint)
                  f.composition.scope)
                (fun reply => f.signed reply)),
            log⟩ ∧
        log =
          .called
              (.sign (specimenDraft.stamped r.fingerprint)
                f.composition.scope) ::
            earlier ∧
        ∃ (request : Request) (built : Draft),
          earlier.HasBuilt (Config.ofNetwork .mainnet) request
              built ∧
            f.composition.validate = .ok request := by
  rcases signing_specimen with
    ⟨f, log, r, hReachable, _, hPayment, hPayments⟩
  have hSeparates :
      Sha256.Separates
        ((f.composition.payment ::
            log.payments (Config.ofNetwork .mainnet).network).map
          Payment.canonicalText) := by
    change
      Sha256.Separates
        ((f.composition.payment :: log.payments .mainnet).map
          Payment.canonicalText)
    rw [hPayments, hPayment]
    apply Sha256.separates_of_eq (s := r.payment.canonicalText)
    intro t ht
    simpa using ht
  rcases sign_of_reachable hReachable hSeparates with
    ⟨request, built, earlier, hLog, hBuilt, _, hValid, _⟩
  exact
    ⟨f, r, log, earlier, hReachable, hLog, request, built, hBuilt,
      hValid⟩

end Run

end Flow

end Remit
