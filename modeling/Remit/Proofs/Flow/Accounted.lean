import Remit.Proofs.Flow.Refreshing

/-
  This file shows that every run keeps to the account, whatever
  is asked for and whatever the engine replies, and says what
  that means for the flow and the log of a run.

  Key theorems include:
    * `Flow.account_isKept`
    * `Flow.Run.Reachable.told`
    * `Flow.Run.Reachable.accords`
    * `Flow.Run.Reachable.settled`
    * `Flow.Run.Reachable.calls`
-/

namespace Remit

namespace Flow

variable {config : Config} {log : Log} {f : Flow}

------------------------------------------------------------
-- Every Run
------------------------------------------------------------

/- A new flow is in accord with the empty log, and settled. -/
theorem rests_new
    (config : Config) :
    Rests config [] (new config) where
  told := by
    refine ⟨rfl, ?_, trivial⟩
    intro s h
    cases h
  accords := by
    apply accords_idle
    · exact Composition.Reachable.new
    · rfl
    · rfl
    · rfl
    · rfl
    · rfl
    · intro signed txid hFound
      cases hFound
  settled := isSettled_of_stage (Or.inr rfl)

/- Whoever subscribes sees the flow as it is. -/
theorem Rests.subscribe
    (h : Rests config log f) :
    Rests config (log.show f f.subscribe) f.subscribe := by
  have hAccords : f.subscribe.Accords config log := by
    unfold Flow.subscribe
    split
    · apply h.accords.resettle
      · exact h.accords.composed
      · rfl
      · rfl
      · rfl
      · rfl
      · rfl
    · exact h.accords
  have hSettled : f.subscribe.IsSettled := by
    unfold Flow.subscribe
    split
    · exact ⟨h.settled.not_busy, h.settled.not_stale⟩
    · exact h.settled
  have hTold :=
    h.told.show (moved_subscribe f) hAccords.coherent
  exact
    ⟨hTold, hAccords.congr (Log.agrees_shown _ log), hSettled⟩

/- Every run keeps to the account. -/
theorem account_isKept
    (config : Config) :
    (account config).IsKept config where
  new := rests_new config
  subscribe := fun f _ h => ⟨moved_subscribe f, h.subscribe⟩
  perform := by
    intro f log a hReachable h
    cases a with
    | start => exact continues_start h
    | cancel => exact continues_cancel h
    | change change => exact continues_change h change
    | review => exact continues_review h hReachable
    | edit => exact continues_edit h
    | confirm => exact continues_confirm h
    | retry => exact continues_retry h
    | refreshBounds => exact continues_refreshBounds h
    | refreshBalances => exact continues_refreshBalances h
  rest := fun _ _ _ _ h => h

------------------------------------------------------------
-- What the Account Says
------------------------------------------------------------

namespace Run

/-
  Wherever a run stands, its log tells of the flow, and the flow
  is in accord with its log.
-/
theorem Reachable.told_and_accords
    {r : Run}
    (hr : Reachable config r) :
    Told config r.log r.flow ∧ r.flow.Accords config r.log := by
  have hHolds := (account_isKept config).holds hr
  rcases r with ⟨current, log⟩
  cases current with
  | resting f => exact ⟨hHolds.told, hHolds.accords⟩
  | working a p =>
      cases p with
      | ended f verdict => exact ⟨hHolds.told, hHolds.accords⟩
      | waiting f call resume =>
          exact ⟨hHolds.1.told, hHolds.1.accords⟩

/- The log of a run tells of its flow. -/
theorem Reachable.told
    {r : Run}
    (hr : Reachable config r) :
    Told config r.log r.flow :=
  hr.told_and_accords.1

/- The flow of a run is in accord with its log. -/
theorem Reachable.accords
    {r : Run}
    (hr : Reachable config r) :
    r.flow.Accords config r.log :=
  hr.told_and_accords.2

/- An event of a run is accounted for by what came before it. -/
theorem Reachable.isJustified
    {r : Run}
    {later earlier : Log}
    {e : Event}
    (hr : Reachable config r)
    (hLog : r.log = later ++ e :: earlier) :
    e.IsJustified config earlier := by
  have hJustified := hr.told.justified
  rw [hLog] at hJustified
  exact hJustified.earlier.1

/- Between actions a flow rests in keeping with the account. -/
theorem Reachable.rests
    (hr : Reachable config ⟨.resting f, log⟩) :
    Rests config log f :=
  (account_isKept config).holds hr

/- Between actions the engine is idle, and no draft is stale. -/
theorem Reachable.settled
    (hr : Reachable config ⟨.resting f, log⟩) :
    f.IsSettled :=
  hr.rests.settled

/- A run calls the engine in keeping with the account. -/
theorem Reachable.calls
    {a : Action}
    {call : EngineCall}
    {resume : call.Reply → Progress}
    (hr : Reachable config ⟨.working a (.waiting f call resume), log⟩) :
    Calls config log f call :=
  ((account_isKept config).holds hr).1

end Run

end Flow

end Remit
