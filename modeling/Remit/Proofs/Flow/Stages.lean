import Remit.Proofs.Flow.Paying

/-
  This file shows that a run goes through the stages in order:
  the fields of a flow fit its stage at every point and in every
  snapshot, stages change along the steps between them only, and
  no action ends for want of a step or of a draft.

  Key definitions include:
    * `Flow.Run.IsOrderly`

  Key theorems include:
    * `Flow.Run.isOrderly_of_reachable`
-/

namespace Remit

namespace Flow

namespace Run

/-
  What a run shows of its stages:
    * the flow fits its stage wherever the run stands;
    * so does every snapshot, by the log as it was when it was
      shown, and the snapshots are all that was published;
    * two snapshots in a row are at one stage or one step apart;
    * so are the flows before and after a step of the run;
    * no action ended for want of a step or of a draft, nor for
      a stale draft.
-/
structure IsOrderly (r : Run) : Prop where
  flow : r.flow.snapshot.IsCoherent r.log
  shown :
    ∀ later s earlier, r.log = later ++ .shown s :: earlier →
      s.IsCoherent earlier
  published : r.flow.published = r.log.snapshots
  follows :
    ∀ later s t earlier,
      r.flow.published = later ++ s :: t :: earlier →
        s.stage = t.stage ∨ Stage.Leads t.stage s.stage
  step :
    ∀ s, Step r s →
      s.flow.stage = r.flow.stage ∨
        Stage.Leads r.flow.stage s.flow.stage
  verdict :
    ∀ a v, Event.ended a v ∈ r.log →
      (∀ origin target,
          v ≠ .refused (.stage (.noStep origin target))) ∧
        v ≠ .refused (.stage .noDraft) ∧
        v ≠ .refused (.stage .staleDraft)

end Run

/- A snapshot was shown after those that were published before. -/
theorem Log.snapshots_eq_append
    {log : Log}
    {later earlier : List Snapshot}
    {s : Snapshot}
    (h : log.snapshots = later ++ s :: earlier) :
    ∃ after before : Log,
      log = after ++ .shown s :: before ∧
        before.snapshots = earlier := by
  rcases Log.filterMap_eq_append h with
    ⟨after, e, before, hLog, hShown, hBefore⟩
  cases e with
  | shown t =>
      cases hShown
      exact ⟨after, before, hLog, hBefore⟩
  | _ => cases hShown

namespace Run

/- Every run is orderly. -/
theorem isOrderly_of_reachable
    {config : Config}
    {r : Run}
    (hr : Reachable config r) :
    r.IsOrderly where
  flow := hr.accords.coherent.snapshot
  shown := by
    intro later s earlier hLog
    exact (hr.isJustified hLog).1
  published := hr.told.published
  follows := by
    intro later s t earlier hPublished
    rw [hr.told.published] at hPublished
    rcases Log.snapshots_eq_append hPublished with
      ⟨after, before, hLog, hBefore⟩
    apply (hr.isJustified hLog).2 t
    rw [hBefore]
    rfl
  step := by
    intro s hStep
    rcases (account_isKept config).change hr hStep with hSame | hMoved
    · rw [hSame]
      exact Or.inl rfl
    · exact hMoved.stage
  verdict := by
    intro a v hEnded
    rcases List.append_of_mem hEnded with ⟨later, earlier, hLog⟩
    have hOrdinary : v.IsOrdinary := hr.isJustified hLog
    refine ⟨?_, ?_, ?_⟩
    · intro origin target hEq
      rcases hOrdinary _ hEq with ⟨_, _, h⟩
      cases h
    · intro hEq
      rcases hOrdinary _ hEq with ⟨_, _, h⟩
      cases h
    · intro hEq
      rcases hOrdinary _ hEq with ⟨_, _, h⟩
      cases h

/- A payment whose signature failed has failed in good order. -/
theorem isOrderly_of_reachable_specimen :
    ∃ (f : Flow) (log : Log),
      Reachable (Config.ofNetwork .mainnet) ⟨.resting f, log⟩ ∧
        f.stage = .failed ∧
        IsOrderly ⟨.resting f, log⟩ := by
  rcases signing_specimen with ⟨_, _, _, hSigned, hSigning, _⟩
  rcases hSigned.failed (.error ⟨.rejected, "refused"⟩) rfl
      (Or.inl hSigning) with
    ⟨f, log, hEnded, hFailed, _⟩
  exact ⟨f, log, hEnded, hFailed, isOrderly_of_reachable hEnded⟩

end Run

end Flow

end Remit
