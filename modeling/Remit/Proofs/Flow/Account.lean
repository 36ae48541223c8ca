import Remit.Proofs.Composition.Validity
import Remit.Proofs.Flow.Coherence

/-
  This file says what every event of a run is accounted for by:
  a build by a review of a valid composition, a signature by the
  latest build, a broadcast by the signature right before it,
  and a snapshot by the flow it shows. The account is a contract
  for runs: it holds wherever an action calls the engine, ends
  or is at rest.

  Key definitions include:
    * `Flow.Event.IsJustified`
    * `Flow.Told`
    * `Flow.Signs`
    * `Flow.account`

  Key theorems include:
    * `Flow.Told.show`
    * `Flow.continues_ended`
    * `Flow.continues_waiting`
-/

namespace Remit

/-
  If the verdict blames the stage, then because the action is
  not permitted there; never for want of a step or of a draft,
  nor for a draft that is stale.
-/
def Verdict.IsOrdinary (v : Verdict) : Prop :=
  ∀ e : StageError, v = .refused (.stage e) →
    ∃ action stage, e = .notPermitted action stage

namespace Flow

------------------------------------------------------------
-- Justified Events
------------------------------------------------------------

namespace Log

/- Nothing but snapshots came after an earlier log. -/
def Follows (log : Log) (earlier : Log) : Prop :=
  ∃ ss : List Snapshot, log = ss.map Event.shown ++ earlier

/- The snapshots of a log, the latest first. -/
def snapshots (log : Log) : List Snapshot :=
  log.filterMap Event.snapshot?

/- What is shown comes on top of the snapshots. -/
theorem snapshots_shown
    (ss : List Snapshot)
    (log : Log) :
    Log.snapshots (ss.map Event.shown ++ log) =
      ss ++ log.snapshots := by
  induction ss with
  | nil => rfl
  | cons s ss ih => exact congrArg (s :: ·) ih

end Log

/- What an event is accounted for by, given all that came before. -/
def Event.IsJustified
    (config : Config)
    (earlier : Log) : Event → Prop
| .asked _ => True
| .called (.build outputs scope fee) =>
    ∃ (f : Flow) (start : Log) (r : Request),
      earlier.Follows (.asked .review :: start) ∧
        Run.Reachable config ⟨.resting f, start⟩ ∧
        f.stage = .composing ∧
        f.composition.validate = .ok r ∧
        r.payment.outputs = outputs ∧
        r.payment.scope = scope ∧
        r.payment.fee = fee
| .called (.sign draft _) =>
    ∃ (built : Draft) (p : Payment),
      p.network = config.network ∧
        earlier.find? Event.touchesDraft =
          some (.replied (.build p.outputs p.scope p.fee)
            (.ok built)) ∧
        draft = built.stamped p.fingerprint
| .called (.broadcast signed) =>
    ∃ (draft : Draft) (scope : Scope) (start : Log),
      earlier.Follows
        (.replied (.sign draft scope) (.ok signed) ::
          .called (.sign draft scope) :: start)
| .called _ => True
| .replied call _ => ∃ start, earlier = .called call :: start
| .shown s =>
    s.IsCoherent earlier ∧
      ∀ t, earlier.snapshots.head? = some t →
        s.stage = t.stage ∨ Stage.Leads t.stage s.stage
| .ended _ verdict => verdict.IsOrdinary

/- Every event of a log is accounted for. -/
def Log.IsJustified (config : Config) : Log → Prop
| [] => True
| e :: earlier =>
    e.IsJustified config earlier ∧ Log.IsJustified config earlier

/- Every event of an earlier log was accounted for already. -/
theorem Log.IsJustified.earlier
    {config : Config}
    {later earlier : Log}
    (h : Log.IsJustified config (later ++ earlier)) :
    earlier.IsJustified config := by
  induction later with
  | nil => exact h
  | cons _ later ih => exact ih h.2

------------------------------------------------------------
-- Logs That Tell What Was Published
------------------------------------------------------------

/-
  The log has all that the flow published, the last of it at the
  stage where the flow is, and everything in it is accounted for.
-/
structure Told
    (config : Config)
    (log : Log)
    (f : Flow) : Prop where
  published : f.published = log.snapshots
  stage : ∀ s, f.published.head? = some s → s.stage = f.stage
  justified : log.IsJustified config

variable {config : Config} {log : Log} {f g : Flow}

/- Another event that is accounted for, and no snapshot. -/
theorem Told.push
    {e : Event}
    (h : Told config log f)
    (hNone : e.snapshot? = none)
    (hJustified : e.IsJustified config log) :
    Told config (e :: log) f where
  published := by
    unfold Log.snapshots
    rw [List.filterMap_cons_none hNone]
    exact h.published
  stage := h.stage
  justified := ⟨hJustified, h.justified⟩

/-
  What a coherent flow publishes is accounted for. The induction
  is on how often its snapshot was published: only the first
  one can show a step.
-/
theorem Told.show
    (h : Told config log f)
    (hMoved : Moved f g)
    (hCoherent : g.IsCoherent log) :
    Told config (log.show f g) g := by
  rcases hMoved.show_eq with ⟨n, hPublished, hStage, hShow⟩
  rw [hShow]
  have hJustified :
      Log.IsJustified config
        ((List.replicate n g.snapshot).map Event.shown ++ log) := by
    clear hPublished hShow
    replace hStage := hStage.imp_right And.left
    induction n with
    | zero => exact h.justified
    | succ n ih =>
        refine ⟨⟨?_, ?_⟩, ih⟩
        · have hAgrees :=
            Log.agrees_shown (List.replicate n g.snapshot) log
          exact (hCoherent.congr hAgrees.send).snapshot
        · intro t ht
          change
            (Log.snapshots
              ((List.replicate n g.snapshot).map Event.shown
                ++ log)).head? = some t at ht
          rw [Log.snapshots_shown] at ht
          cases n with
          | zero =>
              have hOld := h.stage t (by rw [h.published]; exact ht)
              rw [hOld]
              exact hStage
          | succ n =>
              cases ht
              exact Or.inl rfl
  refine ⟨?_, ?_, hJustified⟩
  · rw [Log.snapshots_shown, ← h.published]
    exact hPublished
  · intro t ht
    rw [hPublished] at ht
    cases n with
    | zero =>
        rcases hStage with hSame | ⟨_, hNone⟩
        · rw [hSame]
          exact h.stage t ht
        · rw [hNone rfl] at ht
          cases ht
    | succ n =>
        cases ht
        rfl

------------------------------------------------------------
-- The Account of a Run
------------------------------------------------------------

/-
  A signature is asked for: the draft that is held was built
  last, it agrees with the composition, which has no problems,
  and it is signed in the scope of the composition.
-/
structure Signs
    (config : Config)
    (earlier : Log)
    (f : Flow)
    (draft : Draft)
    (scope : Scope) : Prop where
  built : f.HoldsBuilt config earlier
  draft_eq : f.draft = some draft
  agrees : draft.Matches f.composition.fingerprint
  valid : f.composition.problems.IsEmpty
  scope_eq : scope = f.composition.scope

/- The engine is idle, and a draft under review is not stale. -/
structure IsSettled (f : Flow) : Prop where
  not_busy : ¬ f.stage.IsBusy
  not_stale : f.stage = .reviewing → ¬ f.IsStale

/- What holds of a flow and its log between two actions. -/
structure Rests
    (config : Config)
    (log : Log)
    (f : Flow) : Prop where
  told : Told config log f
  accords : f.Accords config log
  settled : f.IsSettled

/- What holds of a flow and its log at a call. -/
structure Calls
    (config : Config)
    (log : Log)
    (f : Flow)
    (call : EngineCall) : Prop where
  told : Told config log f
  accords : f.Accords config log
  called :
    ∃ earlier, log = .called call :: earlier ∧
      ∀ draft scope, call = .sign draft scope →
        f.Signs config earlier draft scope

/- The account of runs, as a contract. -/
def account (config : Config) : Contract where
  atRest log f := Rests config log f
  atCall _ log f call := Calls config log f call
  atEnd _ log f _ := Rests config log f
  change := Moved

/- An action ends in keeping with the account. -/
theorem continues_ended
    {a : Action}
    {verdict : Verdict}
    (hTold : Told config log f)
    (hMoved : Moved f g)
    (hCoherent : g.IsCoherent log)
    (hAccords : g.Accords config (.ended a verdict :: log))
    (hSettled : g.IsSettled)
    (hVerdict : verdict.IsOrdinary) :
    (account config).Continues a log f (.ended g verdict) := by
  refine ⟨hMoved, ?_, ?_, hSettled⟩
  · exact (hTold.show hMoved hCoherent).push rfl hVerdict
  · apply hAccords.congr
    exact (Log.agrees_shown _ log).cons _

/- An action calls the engine in keeping with the account. -/
theorem continues_waiting
    {a : Action}
    {call : EngineCall}
    {resume : call.Reply → Progress}
    (hTold : Told config log f)
    (hMoved : Moved f g)
    (hAccords : g.Accords config log)
    (hCall :
      g.stage = .reviewing →
        Event.touchesDraft (.called call) = false)
    (hJustified :
      Event.IsJustified config (log.show f g) (.called call))
    (hSigns :
      ∀ draft scope, call = .sign draft scope →
        g.Signs config (log.show f g) draft scope)
    (hReply :
      ∀ (reply : call.Reply) (earlier : Log),
        earlier.Follows log →
          Told config
              (.replied call reply :: .called call :: earlier) g →
            g.Accords config (.called call :: earlier) →
              (account config).Continues a
                (.replied call reply :: .called call :: earlier) g
                (resume reply)) :
    (account config).Continues a log f
      (.waiting g call resume) := by
  have hShown := hTold.show hMoved hAccords.coherent
  have hTold := hShown.push (e := .called call) rfl hJustified
  have hAccords : g.Accords config (.called call :: log.show f g) :=
    (hAccords.congr (Log.agrees_shown _ log)).push rfl hCall
      (fun _ => rfl)
  refine ⟨hMoved, ⟨hTold, hAccords, _, rfl, hSigns⟩, ?_⟩
  intro reply
  exact
    hReply reply (log.show f g) ⟨_, rfl⟩
      (hTold.push rfl ⟨_, rfl⟩) hAccords

end Flow

end Remit
