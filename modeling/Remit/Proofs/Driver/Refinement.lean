import Remit.Proofs.Driver.Order

/-
  This file proves that a driver does what its flow would do if
  the actions that it begins were performed one after the other,
  each to its end. Those actions are some of the sent ones in
  the order they were sent, and when the driver stops there is
  none left that was neither performed nor dropped.

  Key definitions include:
    * `Driver.IsDrained`
    * `Driver.Course.Waits`
    * `Driver.Course.Serializes`

  Key theorems include:
    * `Driver.exists_stopped`
    * `Driver.Course.isReplay_of_reachable`
    * `Driver.Course.run_reachable`
    * `Driver.Course.serializes_of_reachable`
-/

namespace Remit

namespace Driver

------------------------------------------------------------
-- Stopping
------------------------------------------------------------

/- Nothing is under way, put off or waiting, or will be sent. -/
structure IsDrained (d : Driver) : Prop where
  closed : d.closed = true
  resting : ∃ f, d.current = .resting f
  deferred : d.deferred = []
  queue : d.queue = []

/- A driver that has stopped is drained, and remains so. -/
theorem Step.isDrained
    {d e : Driver}
    (h : Step d e)
    (hDrained : d.stopped = true → d.IsDrained)
    (hStopped : e.stopped = true) :
    e.IsDrained := by
  cases h with
  | send a hOpen =>
      have hClosed := (hDrained hStopped).closed
      rw [hOpen] at hClosed
      cases hClosed
  | close => exact { hDrained hStopped with closed := rfl }
  | beginDeferred f a rest hResting hDeferred =>
      rw [(hDrained hStopped).deferred] at hDeferred
      cases hDeferred
  | beginQueued f a rest hResting hDeferred hQueue =>
      rw [(hDrained hStopped).queue] at hQueue
      cases hQueue
  | take a rest taken hQueue hTake =>
      -- Taking does not touch the flag, whatever is taken.
      have hBefore : d.stopped = true := by
        unfold take? at hTake
        split at hTake
        · cases hTake
          exact hStopped
        · cases hTake
          exact hStopped
        · cases hTake
      rw [(hDrained hBefore).queue] at hQueue
      cases hQueue
  | reply a f call resume answer hWaiting =>
      rcases (hDrained hStopped).resting with ⟨g, hResting⟩
      rw [hResting] at hWaiting
      cases hWaiting
  | finish a f verdict hEnded =>
      rcases (hDrained hStopped).resting with ⟨g, hResting⟩
      rw [hResting] at hEnded
      cases hEnded
  | stop f hResting hDeferred hQueue hClosed =>
      exact ⟨hClosed, ⟨f, hResting⟩, hDeferred, hQueue⟩

/- Steps that follow one another. -/
theorem Runs.trans
    {d e g : Driver}
    (hFirst : Runs d e)
    (hNext : Runs e g) :
    Runs d g := by
  induction hFirst with
  | refl d => exact hNext
  | step hStep _ ih => exact .step hStep (ih hNext)

/- An action under way comes to its end if the engine replies. -/
theorem exists_resting
    (a : Action)
    (p : Progress) :
    ∀ d : Driver, d.current = .working a p →
      ∃ f, Runs d { d with current := .resting f } := by
  -- The induction is on the replies that are still to come.
  induction p with
  | ended f verdict =>
      intro d hWorking
      exact ⟨f, .step (.finish d a f verdict hWorking) (.refl _)⟩
  | waiting f call resume ih =>
      intro d hWorking
      have hReply : Nonempty call.Reply := by
        cases call <;> exact ⟨.error ⟨.unknown, ""⟩⟩
      rcases hReply with ⟨answer⟩
      have hStep := Step.reply d a f call resume answer hWorking
      rcases ih answer { d with current := .working a (resume answer) } rfl
        with ⟨g, hRuns⟩
      exact ⟨g, .step hStep hRuns⟩

/- A driver can always come to rest, and take nothing meanwhile. -/
theorem exists_runs_resting
    (d : Driver) :
    ∃ f, Runs d { d with current := .resting f } := by
  rcases hCurrent : d.current with f | ⟨a, p⟩
  · refine ⟨f, ?_⟩
    rw [← hCurrent]
    exact .refl d
  · exact exists_resting a p d hCurrent

/- A driver at rest begins what there is left to begin. -/
theorem exists_begun
    {d : Driver}
    {f : Flow}
    {n : Nat}
    (hResting : d.current = .resting f)
    (hLeft : d.deferred.length + d.queue.length = n + 1) :
    ∃ e, Step d e ∧ e.deferred.length + e.queue.length = n := by
  cases hDeferred : d.deferred with
  | cons a rest =>
      refine ⟨_, .beginDeferred d f a rest hResting hDeferred, ?_⟩
      rw [hDeferred, List.length_cons] at hLeft
      change rest.length + d.queue.length = n
      omega
  | nil =>
      cases hQueue : d.queue with
      | cons a rest =>
          refine
            ⟨_, .beginQueued d f a rest hResting hDeferred hQueue, ?_⟩
          rw [hQueue, List.length_cons] at hLeft
          change d.deferred.length + rest.length = n
          omega
      | nil =>
          rw [hDeferred, hQueue] at hLeft
          cases hLeft

/-
  Whatever has happened, a driver can come to its stop: nothing
  that waits in the queue or was put off blocks it.
-/
theorem exists_stopped
    (d : Driver) :
    ∃ e, Runs d e ∧ e.stopped = true := by
  rcases exists_runs_resting d with ⟨f, hRest⟩
  -- The induction is on how many actions are still to begin.
  induction hLeft : d.deferred.length + d.queue.length
    generalizing d f with
  | zero =>
      have hDeferred : d.deferred = [] :=
        List.eq_nil_of_length_eq_zero (by omega)
      have hQueue : d.queue = [] :=
        List.eq_nil_of_length_eq_zero (by omega)
      have hStop :=
        Step.stop { d with current := .resting f, closed := true } f
          rfl hDeferred hQueue rfl
      exact
        ⟨_, hRest.trans (.step (.close _) (.step hStop (.refl _))), rfl⟩
  | succ n ih =>
      have hBegin :
          ∃ e, Step { d with current := .resting f } e ∧
            e.deferred.length + e.queue.length = n :=
        exists_begun rfl hLeft
      rcases hBegin with ⟨e, hStep, hFewer⟩
      rcases exists_runs_resting e with ⟨g, hNext⟩
      rcases ih e g hNext hFewer with ⟨k, hRuns, hStopped⟩
      exact ⟨k, hRest.trans (.step hStep hRuns), hStopped⟩

namespace Course

variable {f : Flow} {c : Course}

------------------------------------------------------------
-- The Log
------------------------------------------------------------

/- Every course stands where the actions of its log lead to. -/
theorem isReplay_of_reachable
    (h : Reachable f c) :
    Flow.Run.IsReplay f.subscribe ⟨c.driver.current, c.log⟩ := by
  induction h with
  | new =>
      refine ⟨?_, ?_, ?_⟩
      · change
          f.subscribe.sequel (Flow.Log.show [] f f.subscribe).turns =
            some f.subscribe
        rw [Flow.Log.turns_show]
        rfl
      · exact Flow.Log.outstanding_show [] f f.subscribe
      · exact Flow.Log.isSerial_show [] f f.subscribe rfl trivial
  | step _ hStep ih =>
      cases hStep with
      | send a hOpen => exact ih
      | close => exact ih
      | beginDeferred g a rest hResting hDeferred =>
          rw [hResting] at ih
          exact Flow.Run.isReplay_ask ih a
      | beginQueued g a rest hResting hDeferred hQueue =>
          rw [hResting] at ih
          exact Flow.Run.isReplay_ask ih a
      | putOff a rest p hReview hQueue hKept => exact ih
      | drop during a rest p hWorking hQueue hDrops => exact ih
      | reply a g call resume answer hWaiting =>
          rw [hWaiting] at ih
          exact Flow.Run.isReplay_reply ih answer
      | finish a g verdict hEnded =>
          rw [hEnded] at ih
          exact Flow.Run.isReplay_rest ih
      | stop g hResting hDeferred hQueue hClosed => exact ih

/-
  The log of a course is that of a run, so all that holds of
  runs holds behind a driver too.
-/
theorem run_reachable
    {config : Config}
    (h : Reachable (Flow.new config) c) :
    Flow.Run.Reachable config ⟨c.driver.current, c.log⟩ := by
  induction h with
  | new => exact Flow.Run.Reachable.new.step (.subscribe _ _)
  | step _ hStep ih =>
      cases hStep with
      | send a hOpen => exact ih
      | close => exact ih
      | beginDeferred g a rest hResting hDeferred =>
          rw [hResting] at ih
          exact ih.step (.ask g _ a)
      | beginQueued g a rest hResting hDeferred hQueue =>
          rw [hResting] at ih
          exact ih.step (.ask g _ a)
      | putOff a rest p hReview hQueue hKept => exact ih
      | drop during a rest p hWorking hQueue hDrops => exact ih
      | reply a g call resume answer hWaiting =>
          rw [hWaiting] at ih
          exact ih.step (.reply a g call resume _ answer)
      | finish a g verdict hEnded =>
          rw [hEnded] at ih
          exact ih.step (.rest a g verdict _)
      | stop g hResting hDeferred hQueue hClosed => exact ih

------------------------------------------------------------
-- The Refinement
------------------------------------------------------------

/-
  While a call is outstanding no action is begun, those put off
  included, and the flow remains as it is until the reply.
-/
def Waits (c : Course) : Prop :=
  ∀ (a : Action) (g : Flow) (call : EngineCall)
      (resume : call.Reply → Progress) (d : Course),
    c.driver.current = .working a (.waiting g call resume) →
      Step c d →
        d.begun = c.begun ∧
          (d.driver.current = c.driver.current ∧ d.log = c.log ∨
            ∃ answer : call.Reply,
              d.driver.current = .working a (resume answer))

/-
  The actions that the driver of a flow has begun stand for a
  sequence of actions on the flow itself. They are some of those
  sent, by rising numbers, and those put off come after them.
  The flow is where these actions lead to when they are
  performed one after the other. One call at most is outstanding
  at any time, and until its reply nothing else is begun. When
  the driver has stopped, everything sent was either begun or
  dropped, and nothing is left in the queue or put off.
-/
structure Serializes (f : Flow) (c : Course) : Prop where
  begun : List.Forall₂ (Names c.sent) c.begun c.log.actions
  deferred : List.Forall₂ (Names c.sent) c.deferred c.driver.deferred
  rising : (c.begun ++ c.deferred).Pairwise (· < ·)
  sublist : c.log.actions.Sublist c.sent
  comes : f.subscribe.ComesTo c.log.turns c.driver.current
  outstanding : c.log.outstanding.length ≤ 1
  serial : c.log.IsSerial
  waits : c.Waits
  drained :
    c.driver.stopped = true →
      c.driver.IsDrained ∧
        (c.begun ++ c.dropped.map Drop.number).Perm
          (List.range c.sent.length)

/- Every course waits while a call is outstanding. -/
theorem waits
    (c : Course) :
    c.Waits := by
  intro a g call resume d hWaiting hStep
  cases hStep with
  | send b hOpen => exact ⟨rfl, Or.inl ⟨rfl, rfl⟩⟩
  | close => exact ⟨rfl, Or.inl ⟨rfl, rfl⟩⟩
  | beginDeferred h b rest hResting hDeferred =>
      rw [hWaiting] at hResting
      cases hResting
  | beginQueued h b rest hResting hDeferred hQueue =>
      rw [hWaiting] at hResting
      cases hResting
  | putOff b rest p hReview hQueue hKept =>
      exact ⟨rfl, Or.inl ⟨rfl, rfl⟩⟩
  | drop during b rest p hWorking hQueue hDrops =>
      exact ⟨rfl, Or.inl ⟨rfl, rfl⟩⟩
  | reply b h call' resume' answer hWaiting' =>
      rw [hWaiting] at hWaiting'
      cases hWaiting'
      exact ⟨rfl, Or.inr ⟨answer, rfl⟩⟩
  | finish b h verdict hEnded =>
      rw [hWaiting] at hEnded
      cases hEnded
  | stop h hResting hDeferred hQueue hClosed =>
      rw [hWaiting] at hResting
      cases hResting

/- A driver that has stopped is drained, in every course. -/
theorem isDrained_of_reachable
    (h : Reachable f c) :
    c.driver.stopped = true → c.driver.IsDrained := by
  induction h with
  | new => exact fun hStopped => absurd hStopped Bool.noConfusion
  | step _ hStep ih => exact hStep.driver.isDrained ih

/- At most one call is outstanding wherever an action stands. -/
theorem length_calls_le
    (x : Current) :
    (Flow.Current.calls x).length ≤ 1 := by
  rcases x with g | ⟨a, _ | _⟩ <;> exact Nat.le_of_ble_eq_true rfl

/- With an empty queue all that was sent is accounted for. -/
theorem Tallies.accounted_of_drained
    (h : c.Tallies)
    (hDrained : c.driver.IsDrained) :
    (c.begun ++ c.dropped.map Drop.number).Perm
      (List.range c.sent.length) := by
  have hDeferred : c.deferred = [] := by
    have hNames := h.deferred
    rw [hDrained.deferred] at hNames
    exact List.forall₂_nil_right_iff.mp hNames
  have hTaken : c.taken = c.sent.length := by
    have hDrop : c.sent.drop c.taken = [] :=
      h.queue.symm.trans hDrained.queue
    exact Nat.le_antisymm h.taken_le (List.drop_eq_nil_iff.mp hDrop)
  have hAccounted := h.accounted
  rw [hDeferred, List.append_nil, hTaken] at hAccounted
  exact hAccounted

/- The driver of any flow performs what it begins in sequence. -/
theorem serializes_of_reachable
    (h : Reachable f c) :
    c.Serializes f := by
  have hTallies := tallies_of_reachable h
  have hReplay := isReplay_of_reachable h
  have hRising : c.begun.Pairwise (· < ·) :=
    (List.pairwise_append.mp hTallies.rising).1
  refine
    { begun := hTallies.begun
      deferred := hTallies.deferred
      rising := hTallies.rising
      sublist := sublist_of_rising hTallies.begun hRising
      comes := hReplay.comes
      outstanding := ?_
      serial := hReplay.serial
      waits := c.waits
      drained := ?_ }
  · rw [show c.log.outstanding = _ from hReplay.outstanding]
    exact length_calls_le c.driver.current
  · intro hStopped
    have hDrained := isDrained_of_reachable h hStopped
    exact ⟨hDrained, hTallies.accounted_of_drained hDrained⟩

/-
  A review that is refused has a start put off and another
  review dropped. The start is begun next, and then the driver
  stops.
-/
theorem serializes_of_reachable_specimen :
    ∃ c,
      Reachable (Flow.new {}) c ∧
        c.sent = [.review, .start, .review] ∧
        c.begun = [0, 1] ∧
        c.driver.stopped = true ∧
        c.Serializes (Flow.new {}) := by
  have hSent :=
    ((Reachable.new (f := Flow.new {})).step
      (.send _ .review rfl)).step (.send _ .start rfl)
  have hReview :=
    (hSent.step (.send _ .review rfl)).step
      (.beginQueued _ (Flow.new {}).subscribe .review _ rfl rfl rfl)
  have hTaken :=
    (hReview.step (.putOff _ .start _ _ rfl rfl (by decide))).step
      (.drop _ .review .review _ _ rfl rfl
        (Or.inr ⟨rfl, Or.inl rfl⟩))
  have hStart :=
    (hTaken.step (.finish _ .review _ _ rfl)).step
      (.beginDeferred _ _ .start _ rfl rfl)
  have hStopped :=
    ((hStart.step (.finish _ .start _ _ rfl)).step (.close _)).step
      (.stop _ _ rfl rfl rfl rfl)
  exact
    ⟨_, hStopped, rfl, rfl, rfl, serializes_of_reachable hStopped⟩

end Course

end Driver

end Remit
