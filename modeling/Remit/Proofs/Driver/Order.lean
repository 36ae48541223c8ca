import Mathlib.Data.List.Forall2
import Remit.Proofs.Driver.Course

/-
  This file proves that the numbers of a course are in order at
  every point: those begun and those put off rise, and every
  action that was taken from the queue has been begun, is put
  off, or was dropped, just one of these and just once.

  Key definitions include:
    * `Driver.Course.Names`
    * `Driver.Course.Tallies`

  Key theorems include:
    * `Driver.Course.tallies_of_reachable`
    * `Driver.Course.sublist_of_rising`
-/

namespace Remit

namespace Driver

namespace Course

------------------------------------------------------------
-- Numbers and Actions
------------------------------------------------------------

/- The action that was sent under a number. -/
def Names (sent : List Action) (n : Nat) (a : Action) : Prop :=
  sent[n]? = some a

/- What is sent later gives no number another action. -/
theorem Names.append
    {sent : List Action}
    {n : Nat}
    {a : Action}
    (h : Names sent n a)
    (later : List Action) :
    Names (sent ++ later) n a := by
  have hLt : n < sent.length := (List.getElem?_eq_some_iff.mp h).1
  unfold Names
  rw [List.getElem?_append_left hLt]
  exact h

/- The first of those not taken yet has the number of the taken. -/
theorem names_of_drop
    {sent rest : List Action}
    {n : Nat}
    {a : Action}
    (h : a :: rest = sent.drop n) :
    Names sent n a := by
  have hHead : (sent.drop n)[0]? = some a := by
    rw [← h]
    rfl
  rw [List.getElem?_drop] at hHead
  exact hHead

/- Actions whose numbers rise stand in the order they were sent. -/
theorem sublist_of_rising
    {sent as : List Action}
    {ns : List Nat}
    (hNames : List.Forall₂ (Names sent) ns as)
    (hRising : ns.Pairwise (· < ·)) :
    as.Sublist sent := by
  -- The rest of the actions lies behind the number of the first.
  have hBehind :
      ∀ k, (∀ n ∈ ns, k ≤ n) → as.Sublist (sent.drop k) := by
    induction hNames with
    | nil => exact fun k _ => List.nil_sublist _
    | @cons n a ns as hName _ ih =>
        intro k hk
        rcases List.pairwise_cons.mp hRising with ⟨hLater, hRest⟩
        rcases List.getElem?_eq_some_iff.mp hName with ⟨hLt, hEq⟩
        have hTail : as.Sublist (sent.drop (n + 1)) :=
          ih hRest (n + 1) hLater
        have hHere : sent.drop n = a :: sent.drop (n + 1) := by
          rw [List.drop_eq_getElem_cons hLt, hEq]
        have hFrom : (sent.drop n).Sublist (sent.drop k) :=
          List.drop_sublist_drop_left sent
            (hk n List.mem_cons_self)
        exact (hHere ▸ hTail.cons_cons a).trans hFrom
  exact hBehind 0 (fun _ _ => Nat.zero_le _)

------------------------------------------------------------
-- The Tally
------------------------------------------------------------

/-
  The numbers of a course fit its driver and its log. The queue
  holds what was not taken; the numbers begun and then those put
  off rise; and what was taken is accounted for number by
  number. Whatever was dropped is something that the action
  under way at the time drops.
-/
structure Tallies (c : Course) : Prop where
  taken_le : c.taken ≤ c.sent.length
  queue : c.driver.queue = c.sent.drop c.taken
  begun : List.Forall₂ (Names c.sent) c.begun c.log.actions
  deferred :
    List.Forall₂ (Names c.sent) c.deferred c.driver.deferred
  rising : (c.begun ++ c.deferred).Pairwise (· < ·)
  accounted :
    (c.begun ++ c.deferred ++ c.dropped.map Drop.number).Perm
      (List.range c.taken)
  dropped :
    ∀ x ∈ c.dropped, ∃ a, Names c.sent x.number a ∧ x.during.Drops a

section Steps

variable {c : Course} {f : Flow} {a : Action} {rest : List Action}

/- Asking for an action adds it to those performed. -/
theorem actions_asking :
    (c.asking f a).actions = c.log.actions ++ [a] := by
  unfold asking Flow.Log.actions
  rw [Flow.Log.turns_reach]
  exact List.map_append

/- A reply adds nothing to the actions performed. -/
theorem actions_replied
    (log : Flow.Log)
    (call : EngineCall)
    (answer : call.Reply) :
    Flow.Log.actions (.replied call answer :: log) =
      log.actions := by
  change
    (log.turns.modifyLast (·.answered ⟨call, answer⟩)).map
        Turn.action =
      log.turns.map Turn.action
  rcases List.eq_nil_or_concat log.turns with hNil | ⟨ts, t, hTurns⟩
  · rw [hNil]
    rfl
  · rw [hTurns, List.concat_eq_append, List.modifyLast_concat,
      List.map_append, List.map_append]
    rfl

namespace Tallies

/- What is sent joins the end of the queue. -/
theorem send
    (h : c.Tallies)
    (a : Action) :
    Tallies
      { c with
        driver := c.driver.send a
        sent := c.sent ++ [a] } where
  taken_le := by
    rw [List.length_append]
    exact Nat.le_add_right_of_le h.taken_le
  queue := by
    change c.driver.queue ++ [a] = (c.sent ++ [a]).drop c.taken
    rw [h.queue, List.drop_append_of_le_length h.taken_le]
  begun := h.begun.imp (fun _ _ hName => hName.append [a])
  deferred := h.deferred.imp (fun _ _ hName => hName.append [a])
  rising := h.rising
  accounted := h.accounted
  dropped := by
    intro x hx
    rcases h.dropped x hx with ⟨b, hName, hDrops⟩
    exact ⟨b, hName.append [a], hDrops⟩

/- The number of the next action is above those taken before. -/
theorem lt_taken
    (h : c.Tallies)
    {n : Nat}
    (hn : n ∈ c.begun ++ c.deferred) :
    n < c.taken := by
  have hRange : n ∈ List.range c.taken :=
    h.accounted.subset (List.mem_append_left _ hn)
  exact List.mem_range.mp hRange

/- The next number continues those that rise. -/
theorem rising_concat
    (h : c.Tallies) :
    (c.begun ++ c.deferred ++ [c.taken]).Pairwise (· < ·) := by
  rw [List.pairwise_append]
  refine ⟨h.rising, List.pairwise_singleton _ _, ?_⟩
  intro n hn m hm
  rw [List.mem_singleton.mp hm]
  exact h.lt_taken hn

/- The next number is accounted for with those taken before. -/
theorem accounted_concat
    (h : c.Tallies) :
    (c.begun ++ c.deferred ++ c.taken :: c.dropped.map Drop.number).Perm
      (List.range (c.taken + 1)) := by
  rw [List.range_succ]
  refine List.perm_middle.trans ?_
  exact (h.accounted.cons _).trans (List.perm_append_singleton _ _).symm

/- Taking the first of the queue leaves the others. -/
theorem queue_tail
    (h : c.Tallies)
    (hQueue : c.driver.queue = a :: rest) :
    c.taken + 1 ≤ c.sent.length ∧ Names c.sent c.taken a ∧
      rest = c.sent.drop (c.taken + 1) := by
  have hDrop : a :: rest = c.sent.drop c.taken :=
    hQueue.symm.trans h.queue
  have hName : Names c.sent c.taken a := names_of_drop hDrop
  refine ⟨(List.getElem?_eq_some_iff.mp hName).1, hName, ?_⟩
  rw [← List.tail_drop, ← hDrop, List.tail_cons]

/- What was put off first is begun. -/
theorem beginDeferred
    (h : c.Tallies)
    (hDeferred : c.driver.deferred = a :: rest) :
    Tallies
      { c with
        driver :=
          { c.driver with
            deferred := rest
            current := .working a (f.perform a) }
        begun := c.begun ++ c.deferred.take 1
        deferred := c.deferred.drop 1
        log := c.asking f a } := by
  have hNames := h.deferred
  rw [hDeferred] at hNames
  rcases List.forall₂_cons_right_iff.mp hNames with
    ⟨n, ns, hName, hRest, hNumbers⟩
  have hSplit :
      c.begun ++ c.deferred.take 1 ++ c.deferred.drop 1 =
        c.begun ++ c.deferred := by
    rw [List.append_assoc, List.take_append_drop]
  refine
    { taken_le := h.taken_le
      queue := h.queue
      begun := ?_
      deferred := ?_
      rising := hSplit.symm ▸ h.rising
      accounted := hSplit.symm ▸ h.accounted
      dropped := h.dropped }
  · rw [actions_asking, hNumbers]
    exact List.rel_append h.begun (.cons hName .nil)
  · rw [hNumbers]
    exact hRest

/- The first of the queue is begun when nothing is put off. -/
theorem beginQueued
    (h : c.Tallies)
    (hDeferred : c.driver.deferred = [])
    (hQueue : c.driver.queue = a :: rest) :
    Tallies
      { c with
        driver :=
          { c.driver with
            queue := rest
            current := .working a (f.perform a) }
        taken := c.taken + 1
        begun := c.begun ++ [c.taken]
        log := c.asking f a } := by
  rcases h.queue_tail hQueue with ⟨hLe, hName, hRest⟩
  have hNone : c.deferred = [] := by
    have hNames := h.deferred
    rw [hDeferred] at hNames
    exact List.forall₂_nil_right_iff.mp hNames
  have hRising := h.rising_concat
  have hAccounted := h.accounted_concat
  rw [hNone, List.append_nil] at hRising hAccounted
  refine
    { taken_le := hLe
      queue := hRest
      begun := ?_
      deferred := h.deferred
      rising := ?_
      accounted := ?_
      dropped := h.dropped }
  · rw [actions_asking]
    exact List.rel_append h.begun (.cons hName .nil)
  · rw [hNone, List.append_nil]
    exact hRising
  · rw [hNone, List.append_nil, List.append_assoc]
    exact hAccounted

/- What a review puts off joins the others that were put off. -/
theorem putOff
    (h : c.Tallies)
    (hQueue : c.driver.queue = a :: rest) :
    Tallies
      { c with
        driver :=
          { c.driver with
            queue := rest
            deferred := c.driver.deferred ++ [a] }
        taken := c.taken + 1
        deferred := c.deferred ++ [c.taken] } := by
  rcases h.queue_tail hQueue with ⟨hLe, hName, hRest⟩
  refine
    { taken_le := hLe
      queue := hRest
      begun := h.begun
      deferred := List.rel_append h.deferred (.cons hName .nil)
      rising := ?_
      accounted := ?_
      dropped := h.dropped }
  · rw [← List.append_assoc]
    exact h.rising_concat
  · rw [← List.append_assoc, List.append_assoc _ [c.taken]]
    exact h.accounted_concat

/- What is dropped is accounted for as such. -/
theorem drop
    (h : c.Tallies)
    {during : Action}
    {p : Progress}
    (hQueue : c.driver.queue = a :: rest)
    (hDrops : during.Drops a) :
    Tallies
      { c with
        driver := { c.driver with queue := rest }
        taken := c.taken + 1
        dropped := c.dropped ++ [c.nextDrop during p] } := by
  rcases h.queue_tail hQueue with ⟨hLe, hName, hRest⟩
  refine
    { taken_le := hLe
      queue := hRest
      begun := h.begun
      deferred := h.deferred
      rising := h.rising
      accounted := ?_
      dropped := ?_ }
  · rw [List.map_append, ← List.append_assoc, List.range_succ]
    exact h.accounted.append_right _
  · intro x hx
    rcases List.mem_append.mp hx with hOld | hNew
    · exact h.dropped x hOld
    · rw [List.mem_singleton.mp hNew]
      exact ⟨a, hName, hDrops⟩

/- A reply leaves all numbers as they are. -/
theorem reply
    (h : c.Tallies)
    {call : EngineCall}
    {resume : call.Reply → Progress}
    (answer : call.Reply) :
    Tallies
      { c with
        driver := { c.driver with current := .working a (resume answer) }
        log :=
          Flow.Log.reach (.replied call answer :: c.log) a f
            (resume answer) } := by
  refine { h with begun := ?_ }
  have hActions :
      (Flow.Log.reach (.replied call answer :: c.log) a f
          (resume answer)).actions = c.log.actions := by
    unfold Flow.Log.actions
    rw [Flow.Log.turns_reach]
    exact actions_replied c.log call answer
  rw [hActions]
  exact h.begun

end Tallies

end Steps

/- Every step keeps the tally. -/
theorem Tallies.step
    {c d : Course}
    (h : c.Tallies)
    (hStep : Step c d) :
    d.Tallies := by
  cases hStep with
  | send a hOpen => exact h.send a
  | close => exact { h with }
  | beginDeferred f a rest hResting hDeferred =>
      exact h.beginDeferred hDeferred
  | beginQueued f a rest hResting hDeferred hQueue =>
      exact h.beginQueued hDeferred hQueue
  | putOff a rest p hReview hQueue hKept => exact h.putOff hQueue
  | drop during a rest p hWorking hQueue hDrops =>
      exact h.drop hQueue hDrops
  | reply a f call resume answer hWaiting => exact h.reply answer
  | finish a f verdict hEnded => exact { h with }
  | stop f hResting hDeferred hQueue hClosed => exact { h with }

/- Every course tallies. The induction is on its steps. -/
theorem tallies_of_reachable
    {f : Flow}
    {c : Course}
    (h : Reachable f c) :
    c.Tallies := by
  induction h with
  | new =>
      refine
        { taken_le := Nat.le_refl 0
          queue := rfl
          begun := ?_
          deferred := .nil
          rising := .nil
          accounted := .nil
          dropped := fun x hx => absurd hx List.not_mem_nil }
      change List.Forall₂ _ [] ((Flow.Log.show [] f f.subscribe).turns.map _)
      rw [Flow.Log.turns_show]
      exact .nil
  | step _ hStep ih => exact ih.step hStep

end Course

end Driver

end Remit
