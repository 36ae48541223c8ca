import Remit.Proofs.Composition.History
import Remit.Proofs.Flow.Landmarks

/-
  This file defines when a flow is coherent: the draft, the
  identifier, the rows and the last failure fit the stage. It is
  in accord with its log when, besides, the identifier is that
  of the latest broadcast, and a draft under review is the one
  that was built last, for the rows as they are.

  Key definitions include:
    * `Snapshot.IsCoherent`
    * `Flow.IsCoherent`
    * `Flow.HoldsBuilt`
    * `Flow.Accords`

  Key theorems include:
    * `Flow.IsCoherent.snapshot`
    * `Flow.Accords.push`
    * `Flow.Accords.resettle`
    * `Flow.accords_composing`
-/

namespace Remit

/- The stages at which a draft is held. -/
def Stage.HoldsDraft (s : Stage) : Prop :=
  s ∈ [.reviewing, .signing, .broadcasting, .complete, .failed]

instance (s : Stage) : Decidable s.HoldsDraft := by
  unfold Stage.HoldsDraft
  infer_instance

/- The latest reply that a payment was sent with is this failure. -/
def Flow.Log.FailedWith
    (log : Flow.Log)
    (cause : EngineError) : Prop :=
  ∃ call : EngineCall,
    log.find? Flow.Event.repliesToSend =
      some (.replied call (.error cause))

/- No broadcast succeeded since a payment was last started. -/
def Flow.Log.IsUnsettled (log : Flow.Log) : Prop :=
  ∀ (signed : Signed) (txid : String),
    log.find? Flow.Event.settlesTxid ≠
      some (.replied (.broadcast signed) (.ok txid))

------------------------------------------------------------
-- Coherent Snapshots
------------------------------------------------------------

/-
  What a snapshot shows fits its stage: a draft is held from the
  review on, an identifier once the payment is complete, an idle
  flow has neither rows nor a failure, and a failed flow shows
  the failure that a signature or a broadcast ended with.
-/
structure Snapshot.IsCoherent
    (log : Flow.Log)
    (s : Snapshot) : Prop where
  draft_iff : s.draft.isSome ↔ s.stage.HoldsDraft
  txid_iff : s.txid.isSome ↔ s.stage = .complete
  idle :
    s.stage = .idle → s.composition.rows = [] ∧ s.lastError = none
  failed :
    s.stage = .failed →
      ∃ cause, log.FailedWith cause ∧
        s.lastError = some (SendError.engine cause).notice

namespace Flow

/- The fields of a flow fit its stage. -/
structure IsCoherent (log : Log) (f : Flow) : Prop where
  draft_iff : f.draft.isSome ↔ f.stage.HoldsDraft
  txid_iff : f.txid.isSome ↔ f.stage = .complete
  filled : f.stage.HoldsDraft → f.composition.rows ≠ []
  idle :
    f.stage = .idle → f.composition.rows = [] ∧ f.lastError = none
  failed :
    f.stage = .failed →
      ∃ cause, log.FailedWith cause ∧
        f.lastError = some (SendError.engine cause).notice

/- A coherent flow shows coherent snapshots. -/
theorem IsCoherent.snapshot
    {log : Log}
    {f : Flow}
    (h : f.IsCoherent log) :
    f.snapshot.IsCoherent log where
  draft_iff := h.draft_iff
  txid_iff := h.txid_iff
  idle := by
    intro hIdle
    rcases h.idle hIdle with ⟨hRows, hError⟩
    refine ⟨?_, hError⟩
    change f.composition.rowViews = []
    unfold Composition.rowViews
    rw [hRows]
    rfl
  failed := h.failed

/- A coherent flow stays so while the same reply was the latest. -/
theorem IsCoherent.congr
    {log log' : Log}
    {f : Flow}
    (h : f.IsCoherent log)
    (hSend :
      log'.find? Event.repliesToSend =
        log.find? Event.repliesToSend) :
    f.IsCoherent log' where
  draft_iff := h.draft_iff
  txid_iff := h.txid_iff
  filled := h.filled
  idle := h.idle
  failed := by
    intro hFailed
    unfold Log.FailedWith
    rw [hSend]
    exact h.failed hFailed

/- Publishing leaves a flow coherent. -/
theorem IsCoherent.publish
    {log : Log}
    {f : Flow}
    (h : f.IsCoherent log) :
    f.publish.IsCoherent log := by
  constructor
  · rw [publish_draft, publish_stage]
    exact h.draft_iff
  · rw [publish_txid, publish_stage]
    exact h.txid_iff
  · rw [publish_composition, publish_stage]
    exact h.filled
  · rw [publish_composition, publish_lastError, publish_stage]
    exact h.idle
  · rw [publish_lastError, publish_stage]
    exact h.failed

/- A flow without a draft while a payment is composed or built. -/
theorem isCoherent_composing
    {log : Log}
    {f : Flow}
    (hStage : f.stage = .composing ∨ f.stage = .building)
    (hDraft : f.draft = none)
    (hTxid : f.txid = none) :
    f.IsCoherent log := by
  have hNot : ¬ f.stage.HoldsDraft := by
    rcases hStage with h | h <;> rw [h] <;> decide
  have hOther :
      ∀ s : Stage, s ≠ .composing → s ≠ .building →
        f.stage ≠ s := by
    intro s hComposing hBuilding hEq
    rw [hEq] at hStage
    exact hStage.elim hComposing hBuilding
  refine ⟨?_, ?_, fun h => absurd h hNot, ?_, ?_⟩
  · rw [hDraft]
    exact iff_of_false Bool.false_ne_true hNot
  · rw [hTxid]
    exact
      iff_of_false Bool.false_ne_true
        (hOther .complete (by decide) (by decide))
  · intro hIdle
    exact absurd hIdle (hOther .idle (by decide) (by decide))
  · intro hFailed
    exact absurd hFailed (hOther .failed (by decide) (by decide))

/- A flow with a draft once a payment is built. -/
theorem isCoherent_holding
    {log : Log}
    {f : Flow}
    (hStage : f.stage.HoldsDraft)
    (hDraft : f.draft.isSome)
    (hRows : f.composition.rows ≠ [])
    (hTxid : f.txid.isSome ↔ f.stage = .complete)
    (hFailed :
      f.stage = .failed →
        ∃ cause, log.FailedWith cause ∧
          f.lastError = some (SendError.engine cause).notice) :
    f.IsCoherent log := by
  refine ⟨iff_of_true hDraft hStage, hTxid, fun _ => hRows, ?_,
    hFailed⟩
  intro hIdle
  rw [hIdle] at hStage
  exact absurd hStage (by decide)

------------------------------------------------------------
-- Flows in Accord with Their Logs
------------------------------------------------------------

/-
  The draft is the one that was built last, with the fingerprint
  of what it was built for; nothing touched it since, and it was
  built for the rows as they are.
-/
def HoldsBuilt (config : Config) (log : Log) (f : Flow) : Prop :=
  ∃ (built : Draft) (p : Payment),
    p.network = config.network ∧
      log.find? Event.touchesDraft =
        some (.replied (.build p.outputs p.scope p.fee)
          (.ok built)) ∧
      f.draft = some (built.stamped p.fingerprint) ∧
      f.composition.outputs = p.outputs

/- What a flow has to do with the log that led to it. -/
structure Accords
    (config : Config)
    (log : Log)
    (f : Flow) : Prop where
  composed : Composition.Reachable config f.composition
  coherent : f.IsCoherent log
  txid_eq :
    ∀ txid, f.txid = some txid ↔
      ∃ signed,
        log.find? Event.settlesTxid =
          some (.replied (.broadcast signed) (.ok txid))
  built : f.stage = .reviewing → f.HoldsBuilt config log

variable {config : Config} {log : Log} {f : Flow}

/- The accord rests on the latest events of the three kinds. -/
theorem Accords.congr
    {log' : Log}
    (h : f.Accords config log)
    (hAgrees : log'.Agrees log) :
    f.Accords config log' where
  composed := h.composed
  coherent := h.coherent.congr hAgrees.send
  txid_eq := by
    rw [hAgrees.txid]
    exact h.txid_eq
  built := by
    intro hReviewing
    unfold HoldsBuilt
    rw [hAgrees.draft]
    exact h.built hReviewing

/-
  An event that settles no identifier disturbs the accord only
  if it touches the draft under review, or replies to what has
  failed.
-/
theorem Accords.push
    {e : Event}
    (h : f.Accords config log)
    (hTxid : e.settlesTxid = false)
    (hDraft : f.stage = .reviewing → e.touchesDraft = false)
    (hSend : f.stage = .failed → e.repliesToSend = false) :
    f.Accords config (e :: log) where
  composed := h.composed
  coherent := by
    refine
      ⟨h.coherent.draft_iff, h.coherent.txid_iff,
        h.coherent.filled, h.coherent.idle, fun hFailed => ?_⟩
    unfold Log.FailedWith
    rw [List.find?_cons_of_neg (by rw [hSend hFailed]; decide)]
    exact h.coherent.failed hFailed
  txid_eq := by
    rw [List.find?_cons_of_neg (by rw [hTxid]; decide)]
    exact h.txid_eq
  built := by
    intro hReviewing
    unfold HoldsBuilt
    rw [List.find?_cons_of_neg (by rw [hDraft hReviewing]; decide)]
    exact h.built hReviewing

/-
  Other settings of the composition leave the accord as it is,
  as do the funding sources and what was published.
-/
theorem Accords.resettle
    {g : Flow}
    (h : f.Accords config log)
    (hComposed : Composition.Reachable config g.composition)
    (hRows : g.composition.rows = f.composition.rows)
    (hStage : g.stage = f.stage)
    (hDraft : g.draft = f.draft)
    (hTxid : g.txid = f.txid)
    (hError : g.lastError = f.lastError) :
    g.Accords config log where
  composed := hComposed
  coherent := by
    constructor
    · rw [hDraft, hStage]
      exact h.coherent.draft_iff
    · rw [hTxid, hStage]
      exact h.coherent.txid_iff
    · rw [hStage, hRows]
      exact h.coherent.filled
    · rw [hStage, hRows, hError]
      exact h.coherent.idle
    · rw [hStage, hError]
      exact h.coherent.failed
  txid_eq := by
    rw [hTxid]
    exact h.txid_eq
  built := by
    intro hReviewing
    rw [hStage] at hReviewing
    have hOutputs : g.composition.outputs = f.composition.outputs := by
      unfold Composition.outputs
      rw [hRows]
    unfold HoldsBuilt
    rw [hDraft, hOutputs]
    exact h.built hReviewing

/- Publishing leaves the accord as it is. -/
theorem Accords.publish
    (h : f.Accords config log) :
    f.publish.Accords config log := by
  apply h.resettle
  · rw [publish_composition]
    exact h.composed
  all_goals simp

/- A failure that is noted while composing or reviewing. -/
theorem Accords.failing
    (h : f.Accords config log)
    (hStage : f.stage = .composing ∨ f.stage = .reviewing)
    (e : SendError) :
    (f.failing e).Accords config log where
  composed := h.composed
  coherent := by
    refine
      ⟨h.coherent.draft_iff, h.coherent.txid_iff,
        h.coherent.filled, ?_, ?_⟩
    · intro (hIdle : f.stage = .idle)
      rcases hStage with hStage | hStage <;>
        rw [hStage] at hIdle <;> cases hIdle
    · intro (hFailed : f.stage = .failed)
      rcases hStage with hStage | hStage <;>
        rw [hStage] at hFailed <;> cases hFailed
  txid_eq := h.txid_eq
  built := h.built

/- Without a broadcast that counts there is no identifier. -/
theorem Log.IsUnsettled.txid_eq
    (h : log.IsUnsettled)
    (hTxid : f.txid = none)
    (txid : String) :
    f.txid = some txid ↔
      ∃ signed,
        log.find? Event.settlesTxid =
          some (.replied (.broadcast signed) (.ok txid)) := by
  rw [hTxid]
  constructor
  · intro hSome
    cases hSome
  · rintro ⟨signed, hFound⟩
    exact absurd hFound (h signed txid)

/- No broadcast counts before the payment is complete. -/
theorem Accords.unsettled
    (h : f.Accords config log)
    (hStage : f.stage ≠ .complete) :
    log.IsUnsettled := by
  intro signed txid hFound
  have hTxid := (h.txid_eq txid).mpr ⟨signed, hFound⟩
  apply hStage
  apply h.coherent.txid_iff.mp
  rw [hTxid]
  rfl

/- No identifier is held before the payment is complete. -/
theorem Accords.txid_eq_none
    (h : f.Accords config log)
    (hStage : f.stage ≠ .complete) :
    f.txid = none := by
  apply Option.not_isSome_iff_eq_none.mp
  intro hSome
  exact hStage (h.coherent.txid_iff.mp hSome)

/- No draft is held before the review. -/
theorem Accords.draft_eq_none
    (h : f.Accords config log)
    (hStage : ¬ f.stage.HoldsDraft) :
    f.draft = none := by
  apply Option.not_isSome_iff_eq_none.mp
  intro hSome
  exact hStage (h.coherent.draft_iff.mp hSome)

/- A flow without a draft while a payment is composed or built. -/
theorem accords_composing
    (hComposed : Composition.Reachable config f.composition)
    (hStage : f.stage = .composing ∨ f.stage = .building)
    (hDraft : f.draft = none)
    (hTxid : f.txid = none)
    (hUnsettled : log.IsUnsettled) :
    f.Accords config log where
  composed := hComposed
  coherent := isCoherent_composing hStage hDraft hTxid
  txid_eq := hUnsettled.txid_eq hTxid
  built := by
    intro h
    rcases hStage with h' | h' <;> rw [h] at h' <;> cases h'

/- An idle flow, before a payment or after it was given up. -/
theorem accords_idle
    (hComposed : Composition.Reachable config f.composition)
    (hStage : f.stage = .idle)
    (hRows : f.composition.rows = [])
    (hDraft : f.draft = none)
    (hTxid : f.txid = none)
    (hError : f.lastError = none)
    (hUnsettled : log.IsUnsettled) :
    f.Accords config log where
  composed := hComposed
  coherent := by
    have hNot : ¬ Stage.idle.HoldsDraft := by decide
    constructor
    · rw [hDraft, hStage]
      exact iff_of_false Bool.false_ne_true hNot
    · rw [hTxid, hStage]
      exact iff_of_false Bool.false_ne_true Stage.noConfusion
    · rw [hStage]
      exact fun h => absurd h hNot
    · exact fun _ => ⟨hRows, hError⟩
    · rw [hStage]
      exact fun h => by cases h
  txid_eq := hUnsettled.txid_eq hTxid
  built := by
    intro h
    rw [hStage] at h
    cases h

/- A draft is carried on while the payment is sent. -/
theorem Accords.carry
    {g : Flow}
    (h : f.Accords config log)
    (hFrom : f.stage.HoldsDraft)
    (hOpen : f.stage ≠ .complete)
    (hTo : g.stage = .signing ∨ g.stage = .broadcasting)
    (hComposition : g.composition = f.composition)
    (hDraft : g.draft = f.draft)
    (hTxid : g.txid = f.txid) :
    g.Accords config log where
  composed := by
    rw [hComposition]
    exact h.composed
  coherent := by
    have hNone : g.txid = none := by
      rw [hTxid]
      exact h.txid_eq_none hOpen
    apply isCoherent_holding
    · rcases hTo with hTo | hTo <;> rw [hTo] <;> decide
    · rw [hDraft]
      exact h.coherent.draft_iff.mpr hFrom
    · rw [hComposition]
      exact h.coherent.filled hFrom
    · rw [hNone]
      rcases hTo with hTo | hTo <;> rw [hTo] <;> decide
    · rcases hTo with hTo | hTo <;> rw [hTo] <;>
        exact fun h => by cases h
  txid_eq := by
    rw [hTxid]
    exact h.txid_eq
  built := by
    rcases hTo with hTo | hTo <;> rw [hTo] <;>
      exact fun h => by cases h

end Flow

end Remit
