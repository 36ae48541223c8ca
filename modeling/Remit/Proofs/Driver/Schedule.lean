import Remit.Proofs.Driver.Refinement

/-
  This file proves that the schedule which is carried out takes
  none but the steps of a driver, so that all that holds of
  courses holds of it too.

  Key theorems include:
    * `Driver.Station.runs_work`
    * `Driver.Station.runs_settle`
    * `Driver.Station.exists_course_settle`
-/

namespace Remit

namespace Driver

/- A driver that stopped only when it was drained goes on so. -/
theorem Runs.isDrained
    {d e : Driver}
    (h : Runs d e)
    (hDrained : d.stopped = true → d.IsDrained) :
    e.stopped = true → e.IsDrained := by
  induction h with
  | refl d => exact hDrained
  | step hStep _ ih => exact ih (hStep.isDrained hDrained)

/- One step is a run. -/
theorem Step.runs
    {d e : Driver}
    (h : Step d e) :
    Runs d e :=
  .step h (.refl e)

------------------------------------------------------------
-- Taking
------------------------------------------------------------

/- A review may take all of the queue. -/
theorem runs_take_review
    {d : Driver}
    {p : Progress}
    (hReview : d.current = .working .review p) :
    Runs d
      { d with
        queue := []
        deferred := d.deferred ++ putOff d.queue } := by
  induction hQueue : d.queue generalizing d with
  | nil =>
      change Runs d { d with queue := [], deferred := d.deferred ++ [] }
      rw [List.append_nil, ← hQueue]
      exact .refl d
  | cons a rest ih =>
      have hStep :=
        Step.take d a rest _ hQueue (Course.take?_of_review rest hReview)
      have hRest :=
        ih
          (d :=
            { d with
              queue := rest
              deferred := d.deferred ++ putOff [a] })
          hReview rfl
      have hSplit :
          d.deferred ++ putOff [a] ++ putOff rest =
            d.deferred ++ putOff (a :: rest) := by
        rw [List.append_assoc]
        exact congrArg _ (List.filter_append [a] rest).symm
      change
        Runs _
          { d with
            queue := []
            deferred := d.deferred ++ putOff [a] ++ putOff rest }
        at hRest
      rw [hSplit] at hRest
      exact .step hStep hRest

/- A confirmation may take all of the queue. -/
theorem runs_take_confirm
    {d : Driver}
    {p : Progress}
    (hConfirm : d.current = .working .confirm p) :
    Runs d { d with queue := [] } := by
  induction hQueue : d.queue generalizing d with
  | nil =>
      rw [← hQueue]
      exact .refl d
  | cons a rest ih =>
      have hStep : Step d { d with queue := rest } :=
        Course.step_drop hConfirm hQueue (Or.inl rfl)
      exact .step hStep (ih (d := { d with queue := rest }) hConfirm rfl)

namespace Station

variable {σ : Type} (x : Station σ)

/- Taking what can be taken is a run. -/
theorem runs_takeAll :
    Runs x.driver x.takeAll.driver := by
  unfold takeAll
  split
  · exact runs_take_review ‹_›
  · exact runs_take_confirm ‹_›
  · exact .refl _

/- Taking the first of the queue is a run. -/
theorem runs_takeFirst :
    Runs x.driver x.takeFirst.driver := by
  unfold takeFirst
  split
  · exact .refl _
  · rename_i a rest hQueue
    split
    · rename_i taken hTake
      exact (Step.take _ a rest taken hQueue hTake).runs
    · exact .refl _

------------------------------------------------------------
-- Carrying Out
------------------------------------------------------------

/- Beginning the next action is a run. -/
theorem runs_beginNext
    {y : Station σ}
    (h : x.beginNext? = some y) :
    Runs x.driver y.driver := by
  unfold beginNext? at h
  split at h
  · cases h
    exact .refl _
  · rename_i f hResting
    split at h
    · rename_i a rest hDeferred
      cases h
      exact
        .step (.beginDeferred _ f a rest hResting hDeferred)
          (runs_takeFirst
            { x with
              driver :=
                { x.driver with
                  deferred := rest
                  current := .working a (f.perform a) } })
    · rename_i a rest hDeferred hQueue
      cases h
      exact
        .step (.beginQueued _ f a rest hResting hDeferred hQueue)
          (runs_takeFirst
            { x with
              driver :=
                { x.driver with
                  queue := rest
                  current := .working a (f.perform a) } })
    · cases h

/- A driver that has nothing to begin may stop if it is closed. -/
theorem runs_stopped
    (hNone : x.beginNext? = none)
    (hDrained : x.driver.stopped = true → x.driver.IsDrained) :
    Runs x.driver { x.driver with stopped := x.driver.closed } := by
  unfold beginNext? at hNone
  split at hNone
  · cases hNone
  · rename_i f hResting
    split at hNone
    · cases hNone
    · cases hNone
    · rename_i hDeferred hQueue
      cases hEnd : x.driver.closed with
      | true =>
          exact (Step.stop _ f hResting hDeferred hQueue hEnd).runs
      | false =>
          have hRuns : x.driver.stopped = false := by
            by_contra hStopped
            rw [Bool.not_eq_false] at hStopped
            rw [(hDrained hStopped).closed] at hEnd
            cases hEnd
          rw [← hRuns]
          exact .refl _

end Station

/- Letting the engine reply as long as it is ready is a run. -/
theorem runs_advance
    {σ : Type}
    (engine : Engine σ)
    (a : Action)
    (p : Progress) :
    ∀ (d : Driver) (noted : Bool) (s : σ),
      d.current = .working a p →
        Runs d
          { d with
            current := .working a (p.advance engine noted s).1 } := by
  -- The induction is on the replies that are still to come.
  induction p with
  | ended f verdict =>
      intro d noted s hWorking
      change Runs d { d with current := .working a (.ended f verdict) }
      rw [← hWorking]
      exact .refl d
  | waiting f call resume ih =>
      intro d noted s hWorking
      unfold Progress.advance
      dsimp only
      generalize (if noted then s else engine.note call s) = s'
      split
      · have hStep :=
          Step.reply d a f call resume (engine.reply call s') hWorking
        exact .step hStep (ih _ _ false s' rfl)
      · rw [← hWorking]
        exact .refl d

namespace Station

variable {σ : Type} (engine : Engine σ)

/- Carrying out so many actions at most is a run. -/
theorem runs_work
    (n : Nat) :
    ∀ x : Station σ,
      (x.driver.stopped = true → x.driver.IsDrained) →
        Runs x.driver (work engine n x).driver := by
  induction n with
  | zero => exact fun x _ => .refl _
  | succ n ih =>
      intro x hDrained
      unfold work
      split
      · exact runs_stopped x ‹_› hDrained
      · rename_i y hBegin
        have hBegun := runs_beginNext x hBegin
        split
        · exact hBegun
        · rename_i a p hWorking
          have hAdvance :=
            hBegun.trans
              (runs_advance engine a p y.driver y.noted y.engine
                hWorking)
          generalize p.advance engine y.noted y.engine = reached
            at hAdvance ⊢
          rcases reached with ⟨_ | _, noted, s⟩
          · rename_i f verdict
            have hFinish :=
              hAdvance.trans (Step.finish _ a f verdict rfl).runs
            exact
              hFinish.trans
                (ih
                  ⟨{ y.driver with current := .resting f }, noted, s⟩
                  (hFinish.isDrained hDrained))
          · rename_i f call resume
            exact
              hAdvance.trans
                (runs_takeAll
                  ⟨{ y.driver with
                      current := .working a (.waiting f call resume) },
                    noted, s⟩)

/- Carrying on until nothing can proceed is a run. -/
theorem runs_settle
    (x : Station σ)
    (hDrained : x.driver.stopped = true → x.driver.IsDrained) :
    Runs x.driver (x.settle engine).driver :=
  runs_work engine (x.load + 1) x hDrained

/- A course goes on with what is carried out. -/
theorem exists_course_settle
    {f : Flow}
    {c : Course}
    (h : Course.Reachable f c)
    {x : Station σ}
    (hDriver : x.driver = c.driver) :
    ∃ d, Course.Reachable f d ∧
      d.driver = (x.settle engine).driver := by
  have hDrained : x.driver.stopped = true → x.driver.IsDrained := by
    rw [hDriver]
    exact Course.isDrained_of_reachable h
  exact
    Course.exists_reachable (runs_settle engine x hDrained) c h
      hDriver.symm

end Station

end Driver

end Remit
