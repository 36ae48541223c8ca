import Remit.Proofs.Flow.Run

/-
  This file shows what flows publish on their way. From one
  point of an action to the next there is at most one step to
  another stage, and all that is published in between is the
  snapshot of the flow at that next point.

  Key definitions include:
    * `Flow.Moved`

  Key theorems include:
    * `Flow.moveTo?_eq_ok`
    * `Flow.Moved.publish`
    * `Flow.moved_publish`
    * `Flow.moved_dropStale`
    * `Flow.Moved.show_eq`
-/

namespace Remit

namespace Flow

------------------------------------------------------------
-- Publishing
------------------------------------------------------------

section Publish

variable (f : Flow)

/- Publishing changes nothing but what was published. -/
@[simp]
theorem publish_composition :
    f.publish.composition = f.composition := by
  unfold publish
  split <;> rfl

@[simp]
theorem publish_stage :
    f.publish.stage = f.stage := by
  unfold publish
  split <;> rfl

@[simp]
theorem publish_draft :
    f.publish.draft = f.draft := by
  unfold publish
  split <;> rfl

@[simp]
theorem publish_txid :
    f.publish.txid = f.txid := by
  unfold publish
  split <;> rfl

@[simp]
theorem publish_lastError :
    f.publish.lastError = f.lastError := by
  unfold publish
  split <;> rfl

/- Nothing is published unless somebody subscribed. -/
theorem publish_of_unsubscribed
    {f : Flow}
    (h : f.published = []) :
    f.publish = f := by
  unfold publish
  rw [if_pos h]

end Publish

------------------------------------------------------------
-- Steps Between Stages
------------------------------------------------------------

/- A step that there is leads to the other stage. -/
theorem moveTo?_eq_ok
    {f : Flow}
    {target : Stage}
    (hLeads : Stage.Leads f.stage target) :
    f.moveTo? target = .ok { f with stage := target }.publish := by
  unfold moveTo?
  rw [if_pos hLeads]

/- An action ends at a stage that there is a step to. -/
theorem endAt_eq_ended
    {f : Flow}
    {target : Stage}
    {verdict : Verdict}
    (hLeads : Stage.Leads f.stage target) :
    f.endAt target verdict =
      .ended { f with stage := target }.publish verdict := by
  unfold endAt
  rw [moveTo?_eq_ok hLeads]

/-
  From one flow to another there is at most one step between
  stages, and whatever is published is the snapshot of the
  latter. A step is published if anybody has subscribed.
-/
def Moved (f : Flow) (g : Flow) : Prop :=
  ∃ n : Nat,
    g.published = List.replicate n g.snapshot ++ f.published ∧
      (g.stage = f.stage ∨
        Stage.Leads f.stage g.stage ∧ (n = 0 → f.published = []))

/- A flow moved at most one step. -/
theorem Moved.stage
    {f g : Flow}
    (h : Moved f g) :
    g.stage = f.stage ∨ Stage.Leads f.stage g.stage := by
  rcases h with ⟨n, _, hStage | ⟨hLeads, _⟩⟩
  · exact Or.inl hStage
  · exact Or.inr hLeads

/- Nothing was published at the same stage. -/
theorem moved_of_eq
    {f g : Flow}
    (hPublished : g.published = f.published)
    (hStage : g.stage = f.stage) :
    Moved f g :=
  ⟨0, hPublished, Or.inl hStage⟩

/- A step to another stage is published. -/
theorem moved_publish
    {f g : Flow}
    (hPublished : g.published = f.published)
    (hLeads : Stage.Leads f.stage g.stage) :
    Moved f g.publish := by
  unfold publish
  split
  · rename_i hNone
    refine ⟨0, hPublished, Or.inr ⟨hLeads, fun _ => ?_⟩⟩
    rw [← hPublished]
    exact hNone
  · refine ⟨1, ?_, Or.inr ⟨hLeads, fun h => by cases h⟩⟩
    rw [← hPublished]
    rfl

/- Going on to another stage is published. -/
theorem moved_to
    {f g : Flow}
    {target : Stage}
    (hPublished : g.published = f.published)
    (hLeads : Stage.Leads f.stage target) :
    Moved f { g with stage := target }.publish := by
  refine moved_publish ?_ ?_
  · exact hPublished
  · exact hLeads

/- Publishing once more shows the same snapshot. -/
theorem Moved.publish
    {f g : Flow}
    (h : Moved f g) :
    Moved f g.publish := by
  rcases h with ⟨n, hPublished, hStage⟩
  unfold Flow.publish
  split
  · exact ⟨n, hPublished, hStage⟩
  · refine ⟨n + 1, ?_, ?_⟩
    · change g.snapshot :: g.published = _
      rw [hPublished]
      rfl
    · rcases hStage with hSame | ⟨hLeads, _⟩
      · exact Or.inl hSame
      · exact Or.inr ⟨hLeads, fun h => by cases h⟩

/- A subscription shows the flow as it is, or nothing. -/
theorem moved_subscribe
    (f : Flow) :
    Moved f f.subscribe := by
  unfold subscribe
  split
  · rename_i hNone
    refine ⟨1, ?_, Or.inl rfl⟩
    rw [hNone]
    rfl
  · exact moved_of_eq rfl rfl

------------------------------------------------------------
-- Stale Drafts
------------------------------------------------------------

/- A stale draft is let go of on the way back from the review. -/
theorem dropStale_eq_publish
    {f : Flow}
    (hReviewing : f.stage = .reviewing)
    (hStale : f.IsStale) :
    f.dropStale = { f.discard with stage := .composing }.publish := by
  have hLeads : Stage.Leads f.discard.stage .composing := by
    change Stage.Leads f.stage .composing
    rw [hReviewing]
    decide
  unfold dropStale
  rw [if_pos ⟨hReviewing, hStale⟩, moveTo?_eq_ok hLeads]

/- Any other flow is left as it is. -/
theorem dropStale_eq_self
    {f : Flow}
    (h : ¬ (f.stage = .reviewing ∧ f.IsStale)) :
    f.dropStale = f := by
  unfold dropStale
  rw [if_neg h]

/- A stale draft is let go of in one step at most. -/
theorem moved_dropStale
    {f g : Flow}
    (hPublished : g.published = f.published)
    (hStage : g.stage = f.stage) :
    Moved f g.dropStale := by
  by_cases h : g.stage = .reviewing ∧ g.IsStale
  · have hLeads : Stage.Leads f.stage .composing := by
      rw [← hStage, h.1]
      decide
    rw [dropStale_eq_publish h.1 h.2]
    exact moved_to hPublished hLeads
  · rw [dropStale_eq_self h]
    exact moved_of_eq hPublished hStage

------------------------------------------------------------
-- Logs
------------------------------------------------------------

/- The log shows the one snapshot, as often as it was published. -/
theorem Moved.show_eq
    {f g : Flow}
    (h : Moved f g) :
    ∃ n : Nat,
      g.published = List.replicate n g.snapshot ++ f.published ∧
        (g.stage = f.stage ∨
          Stage.Leads f.stage g.stage ∧
            (n = 0 → f.published = [])) ∧
        ∀ log : Log,
          log.show f g =
            (List.replicate n g.snapshot).map Event.shown ++
              log := by
  rcases h with ⟨n, hPublished, hStage⟩
  refine ⟨n, hPublished, hStage, fun log => ?_⟩
  have hSince : g.shownSince f = List.replicate n g.snapshot := by
    unfold shownSince
    rw [hPublished, List.length_append, Nat.add_sub_cancel]
    exact List.take_left
  unfold Log.show
  rw [hSince]

end Flow

end Remit
