import Remit.Proofs.Flow.Accounted
import Remit.Proofs.Flow.Replay

/-
  This file lists every way in which an action can end that a
  flow at rest is asked for: what the engine replied on the way,
  what became of the flow, and the verdict. Whatever is said of
  all actions is read off this list.

  Key definitions include:
    * `Flow.Concludes`
    * `Flow.Contract.between`

  Key theorems include:
    * `Progress.given_waiting`
    * `Flow.Rests.concludes`
    * `Flow.between_isKept`
-/

namespace Remit

------------------------------------------------------------
-- Replies up to the End
------------------------------------------------------------

namespace Progress

variable
  {p : Progress} {f g : Flow} {v w : Verdict}
  {replies : List Answered}

/- An action that ends takes no more replies. -/
theorem given_ended
    (hp : p = ended f v)
    (hGiven : p.given replies = some (ended g w)) :
    replies = [] ∧ g = f ∧ w = v := by
  subst hp
  cases replies with
  | nil =>
      cases hGiven
      exact ⟨rfl, rfl, rfl⟩
  | cons r replies => cases hGiven

/- An action that waits takes a reply to its call, and goes on. -/
theorem given_waiting
    {call : EngineCall}
    {resume : call.Reply → Progress}
    (hp : p = waiting f call resume)
    (hGiven : p.given replies = some (ended g w)) :
    ∃ (reply : call.Reply) (rest : List Answered),
      replies = ⟨call, reply⟩ :: rest ∧
        (resume reply).given rest = some (ended g w) := by
  subst hp
  cases replies with
  | nil => cases hGiven
  | cons r rest =>
      rcases r with ⟨asked, reply⟩
      by_cases hCall : asked = call
      · subst hCall
        refine ⟨reply, rest, rfl, ?_⟩
        simpa [given, reply?] using hGiven
      · simp [given, reply?, hCall] at hGiven

/- The first reply is given to the call that waits for it. -/
theorem given_cons
    (f : Flow)
    {call : EngineCall}
    (resume : call.Reply → Progress)
    (reply : call.Reply)
    (replies : List Answered) :
    (waiting f call resume).given (⟨call, reply⟩ :: replies) =
      (resume reply).given replies := by
  simp [given, reply?]

end Progress

namespace Flow

variable {config : Config} {log : Log} {f g : Flow}

------------------------------------------------------------
-- Ends of Actions
------------------------------------------------------------

/-
  What can become of an action that a flow at rest is asked for:
  the replies on the way, the flow it leaves, and the verdict.
-/
inductive Concludes (f : Flow) :
    Action → List Answered → Flow → Verdict → Prop where
| misplaced (a : Action) (hStage : f.stage ∉ a.stages) :
    f.Concludes a [] f
      (.refused (.stage (.notPermitted a.name f.stage)))
| unstarted
    (e : SendError)
    (hStage : f.stage = .idle)
    (hFirst : f.firstRow? = .error e) :
    f.Concludes .start [] f (.refused e)
| started
    (g : Flow)
    (hStage : f.stage ∈ Action.start.stages)
    (hFirst : f.renew.forget.firstRow? = .ok g) :
    f.Concludes .start [] (g.goTo .composing) .done
| cancelled (hStage : f.stage = .composing) :
    f.Concludes .cancel []
      (goTo { f.forget with composition := f.composition.cleared }
        .idle)
      .done
| rejected
    (change : Change)
    (e : SendError)
    (hStage : f.stage ∈ (Action.change change).stages)
    (hChanged : f.changed change = .error e) :
    f.Concludes (.change change) [] (f.failing e).publish
      (.refused e)
| changed
    (change : Change)
    (g : Flow)
    (hStage : f.stage ∈ (Action.change change).stages)
    (hChanged : f.changed change = .ok g) :
    f.Concludes (.change change) [] (g.discard.goTo .composing)
      .done
| invalid
    (ps : Problems)
    (hStage : f.stage = .composing)
    (hInvalid : f.composition.validate = .error ps) :
    f.Concludes .review [] (f.failing (.problems ps)).publish
      (.refused (.problems ps))
| unbuilt
    (r : Request)
    (cause : EngineError)
    (hStage : f.stage = .composing)
    (hValid : f.composition.validate = .ok r) :
    f.Concludes .review
      [⟨.build r.payment.outputs r.payment.scope r.payment.fee,
        .error cause⟩]
      (((f.forget.goTo .building).failing (.engine cause)).goTo
        .composing)
      (.refused (.engine cause))
| built
    (r : Request)
    (draft : Draft)
    (hStage : f.stage = .composing)
    (hValid : f.composition.validate = .ok r) :
    f.Concludes .review
      [⟨.build r.payment.outputs r.payment.scope r.payment.fee,
        .ok draft⟩]
      (goTo
        { f.forget.goTo .building with
          draft := some (draft.stamped r.fingerprint) }
        .reviewing)
      .done
| edited (hStage : f.stage = .reviewing) :
    f.Concludes .edit [] (f.discard.goTo .composing) .done
| unsigned
    (draft : Draft)
    (cause : EngineError)
    (hStage : f.stage = .reviewing)
    (hDraft : f.draft = some draft) :
    f.Concludes .confirm
      [⟨.sign draft f.composition.scope, .error cause⟩]
      (((f.goTo .signing).failing (.engine cause)).goTo .failed)
      (.refused (.engine cause))
| unsent
    (draft : Draft)
    (signed : Signed)
    (cause : EngineError)
    (hStage : f.stage = .reviewing)
    (hDraft : f.draft = some draft) :
    f.Concludes .confirm
      [⟨.sign draft f.composition.scope, .ok signed⟩,
        ⟨.broadcast signed, .error cause⟩]
      ((((f.goTo .signing).goTo .broadcasting).failing
        (.engine cause)).goTo .failed)
      (.refused (.engine cause))
| sent
    (draft : Draft)
    (signed : Signed)
    (txid : String)
    (hStage : f.stage = .reviewing)
    (hDraft : f.draft = some draft) :
    f.Concludes .confirm
      [⟨.sign draft f.composition.scope, .ok signed⟩,
        ⟨.broadcast signed, .ok txid⟩]
      (goTo
        { (f.goTo .signing).goTo .broadcasting with
          txid := some txid }
        .complete)
      (.sent txid)
| retried (hStage : f.stage = .failed) :
    f.Concludes .retry [] (f.discard.forget.goTo .composing) .done
| unbounded (cause : EngineError) :
    f.Concludes .refreshBounds [⟨.bounds, .error cause⟩] f
      (.refreshed false)
| bounded (bounds : FeeBounds) :
    f.Concludes .refreshBounds [⟨.bounds, .ok bounds⟩]
      (dropStale
        { f with
          composition := f.composition.setBounds bounds }).publish
      (.refreshed true)
| unlisted (cause : EngineError) :
    f.Concludes .refreshBalances [⟨.sources, .error cause⟩] f
      (.refreshed false)
| listed
    (sources : List Source)
    (reply : Except EngineError Balance)
    (balance : Balance)
    (hBalance :
      balance =
        match reply with
        | .ok told => told
        | .error _ => (f.composition.scope.resolve sources).balance) :
    f.Concludes .refreshBalances
      [⟨.sources, .ok sources⟩,
        ⟨.balance (f.composition.scope.resolve sources).scope,
          reply⟩]
      (dropStale
        { f.listed sources with
          composition :=
            (f.listed sources).composition.setBalance
              balance }).publish
      (.refreshed true)

------------------------------------------------------------
-- Every Action
------------------------------------------------------------

section Ends

variable {v : Verdict} {replies : List Answered}

open Progress

/- Starting leads to the composition, unless no row is allowed. -/
theorem Rests.concludes_start
    (h : Rests config log f)
    (hStage : f.stage ∈ [.idle, .complete])
    (hGiven : f.start.given replies = some (.ended g v)) :
    f.Concludes .start replies g v := by
  cases hFirst : f.renew.forget.firstRow? with
  | error e =>
      rcases h.of_unstarted hStage hFirst with ⟨hIdle, hSame, _⟩
      rw [hSame] at hFirst
      have hRefused : f.start = .ended f (.refused e) := by
        unfold start
        rw [if_pos hStage, hSame]
        simp only [hFirst]
      rcases given_ended hRefused hGiven with ⟨rfl, rfl, rfl⟩
      exact .unstarted e hIdle hFirst
  | ok first =>
      rcases given_ended (start_eq_ended hStage hFirst) hGiven with
        ⟨rfl, rfl, rfl⟩
      exact .started first hStage hFirst

/- Changing the composition is taken, or leaves it as it is. -/
theorem concludes_change
    {change : Change}
    (hStage : f.stage ∈ [.composing, .reviewing])
    (hGiven : (f.change change).given replies = some (.ended g v)) :
    f.Concludes (.change change) replies g v := by
  cases hChanged : f.changed change with
  | error e =>
      rcases given_ended (change_eq_record hStage hChanged) hGiven with
        ⟨rfl, rfl, rfl⟩
      exact .rejected change e hStage hChanged
  | ok changed =>
      rcases given_ended (change_eq_ended hStage hChanged) hGiven with
        ⟨rfl, rfl, rfl⟩
      exact .changed change changed hStage hChanged

/- A review leads on with what was built, and back otherwise. -/
theorem concludes_review
    (hStage : f.stage = .composing)
    (hGiven : f.review.given replies = some (.ended g v)) :
    f.Concludes .review replies g v := by
  cases hValid : f.composition.validate with
  | error ps =>
      rcases given_ended (review_eq_record hStage hValid) hGiven with
        ⟨rfl, rfl, rfl⟩
      exact .invalid ps hStage hValid
  | ok r =>
      have hBuilding := goTo_stage f.forget .building
      rcases given_waiting (review_eq_waiting hStage hValid) hGiven with
        ⟨reply, rest, rfl, hBuilt⟩
      cases reply with
      | error cause =>
          have hEnded := built_error_eq_ended hBuilding r cause
          rcases given_ended hEnded hBuilt with ⟨rfl, rfl, rfl⟩
          exact .unbuilt r cause hStage hValid
      | ok draft =>
          have hEnded := built_ok_eq_ended hBuilding r draft
          rcases given_ended hEnded hBuilt with ⟨rfl, rfl, rfl⟩
          exact .built r draft hStage hValid

/-
  A confirmation signs and broadcasts the draft under review,
  which is there and not stale, or fails on the way.
-/
theorem Rests.concludes_confirm
    (h : Rests config log f)
    (hStage : f.stage = .reviewing)
    (hGiven : f.confirm.given replies = some (.ended g v)) :
    f.Concludes .confirm replies g v := by
  rcases not_isStale_iff.mp (h.settled.not_stale hStage) with
    ⟨⟨draft, hDraft, hMatches⟩, _⟩
  have hSigning := goTo_stage f .signing
  have hBroadcasting := goTo_stage (f.goTo .signing) .broadcasting
  have hConfirm := confirm_eq_waiting hStage hDraft hMatches
  rcases given_waiting hConfirm hGiven with
    ⟨reply, rest, rfl, hSigned⟩
  cases reply with
  | error cause =>
      have hEnded := fail_eq_ended (Or.inl hSigning) cause
      rcases given_ended hEnded hSigned with ⟨rfl, rfl, rfl⟩
      exact .unsigned draft cause hStage hDraft
  | ok signed =>
      have hWaiting := signed_ok_eq_waiting hSigning signed
      rcases given_waiting hWaiting hSigned with
        ⟨reply, rest, rfl, hSent⟩
      cases reply with
      | error cause =>
          have hEnded := fail_eq_ended (Or.inr hBroadcasting) cause
          rcases given_ended hEnded hSent with ⟨rfl, rfl, rfl⟩
          exact .unsent draft signed cause hStage hDraft
      | ok txid =>
          have hEnded := sent_ok_eq_ended hBroadcasting txid
          rcases given_ended hEnded hSent with ⟨rfl, rfl, rfl⟩
          exact .sent draft signed txid hStage hDraft

/- Bounds of the fee are taken over, or left as they are. -/
theorem concludes_refreshBounds
    (hGiven : f.refreshBounds.given replies = some (.ended g v)) :
    f.Concludes .refreshBounds replies g v := by
  rcases given_waiting rfl hGiven with ⟨reply, rest, rfl, hEnded⟩
  cases reply with
  | error cause =>
      rcases given_ended rfl hEnded with ⟨rfl, rfl, rfl⟩
      exact .unbounded cause
  | ok bounds =>
      rcases given_ended rfl hEnded with ⟨rfl, rfl, rfl⟩
      exact .bounded bounds

/- A balance follows a list of sources, or all is left as it is. -/
theorem concludes_refreshBalances
    (hGiven : f.refreshBalances.given replies = some (.ended g v)) :
    f.Concludes .refreshBalances replies g v := by
  rcases given_waiting rfl hGiven with ⟨reply, rest, rfl, hListed⟩
  cases reply with
  | error cause =>
      rcases given_ended rfl hListed with ⟨rfl, rfl, rfl⟩
      exact .unlisted cause
  | ok sources =>
      rcases given_waiting rfl hListed with ⟨reply, rest, rfl, hTold⟩
      rcases given_ended rfl hTold with ⟨rfl, rfl, rfl⟩
      exact .listed sources reply _ rfl

/- Every action that a flow at rest is asked for ends as listed. -/
theorem Rests.concludes
    {a : Action}
    (h : Rests config log f)
    (hGiven : (f.perform a).given replies = some (.ended g v)) :
    f.Concludes a replies g v := by
  by_cases hStage : f.stage ∈ a.stages
  · cases a with
    | start => exact h.concludes_start hStage hGiven
    | cancel =>
        have hComposing := List.mem_singleton.mp hStage
        rcases given_ended (cancel_eq_ended hComposing) hGiven with
          ⟨rfl, rfl, rfl⟩
        exact .cancelled hComposing
    | change change => exact concludes_change hStage hGiven
    | review =>
        exact concludes_review (List.mem_singleton.mp hStage) hGiven
    | edit =>
        have hReviewing := List.mem_singleton.mp hStage
        rcases given_ended (edit_eq_ended hReviewing) hGiven with
          ⟨rfl, rfl, rfl⟩
        exact .edited hReviewing
    | confirm =>
        exact h.concludes_confirm (List.mem_singleton.mp hStage) hGiven
    | retry =>
        have hFailed := List.mem_singleton.mp hStage
        rcases given_ended (retry_eq_ended hFailed) hGiven with
          ⟨rfl, rfl, rfl⟩
        exact .retried hFailed
    | refreshBounds => exact concludes_refreshBounds hGiven
    | refreshBalances => exact concludes_refreshBalances hGiven
  · rcases given_ended (perform_eq_refused hStage) hGiven with
      ⟨rfl, rfl, rfl⟩
    exact .misplaced a hStage

end Ends

------------------------------------------------------------
-- What Holds Between Actions
------------------------------------------------------------

/- Something that is to hold of a flow before and after an action. -/
def Contract.between (P : Flow → Prop) : Contract where
  atRest := fun _ f => P f
  atCall := fun _ _ _ _ => True
  atEnd := fun _ _ f _ => P f
  change := fun _ _ => True

/-
  An action is covered by what holds wherever it can end. The
  induction is on what remains of the action.
-/
private theorem covers_between
    {P : Flow → Prop}
    {a : Action}
    {p : Progress}
    (hEnds :
      ∀ replies g v, p.given replies = some (.ended g v) → P g)
    (log : Log) :
    (Contract.between P).Covers a log p := by
  induction p generalizing log with
  | ended g v => exact hEnds [] g v rfl
  | waiting g call resume ih =>
      refine ⟨trivial, fun reply => ⟨trivial, ?_⟩⟩
      apply ih
      intro replies h v hGiven
      apply hEnds (⟨call, reply⟩ :: replies) h v
      rw [Progress.given_cons]
      exact hGiven

/-
  What holds of a new flow, and outlives a subscription and
  every end of an action, holds between actions in every run.
-/
theorem between_isKept
    {P : Flow → Prop}
    (hNew : P (new config))
    (hSubscribe : ∀ f, P f → P f.subscribe)
    (hEnds :
      ∀ f g log a replies v,
        Run.Reachable config ⟨.resting f, log⟩ →
          P f → f.Concludes a replies g v → P g) :
    (Contract.between P).IsKept config where
  new := hNew
  subscribe := fun f _ h => ⟨trivial, hSubscribe f h⟩
  perform := by
    intro f log a hr h
    refine ⟨trivial, covers_between ?_ _⟩
    intro replies g v hGiven
    exact hEnds f g log a replies v hr h (hr.rests.concludes hGiven)
  rest := fun _ _ _ _ h => h

end Flow

end Remit
