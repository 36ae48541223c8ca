import Remit.Proofs.Flow.Conclusion
import Remit.Proofs.Flow.Paying
import Remit.Proofs.Payment.CanonicalText
import Remit.Proofs.Scope.Resolution

/-
  This file tells which refreshes the draft under review
  survives. With other bounds it is kept exactly if the fee is
  the same; with another list of sources and another balance,
  exactly if the scope stands and what can be spent covers the
  total. Otherwise the draft is let go of, and the same rows are
  composed. At other stages a refresh leaves stage and draft
  alone.

  Key definitions include:
    * `Flow.KeepsReview`
    * `Flow.LeavesReview`
    * `Flow.ReviewLastsIff`
    * `Flow.Refreshes`

  Key theorems include:
    * `Composition.agrees_iff`
    * `Flow.not_isStale_iff_of_draft`
    * `Flow.refreshes_of_given`
-/

namespace Remit

------------------------------------------------------------
-- Compositions of the Same Rows
------------------------------------------------------------

namespace Composition

variable {config : Config} {c d : Composition}

/-
  The fingerprint of a composition tells its fee and its scope,
  among those of the same rows.
-/
theorem fingerprint_eq_iff
    (hc : Sound config c)
    (hd : Sound config d)
    (hRows : d.rows = c.rows)
    (hSeparates :
      Sha256.Separates
        [c.payment.canonicalText, d.payment.canonicalText]) :
    d.fingerprint = c.fingerprint ↔
      d.fee = c.fee ∧ d.scope = c.scope := by
  have hOutputs : d.payment.outputs = c.payment.outputs := by
    change d.outputs = c.outputs
    unfold outputs
    rw [hRows]
  constructor
  · intro hSame
    have hTexts :
        Sha256.Separates
          ([c.payment, d.payment].map Payment.canonicalText) :=
      hSeparates
    have hPayment : d.payment = c.payment :=
      Payment.eq_of_fingerprint hTexts (by simp) (by simp) hOutputs
        hSame
    exact
      ⟨congrArg Payment.fee hPayment,
        congrArg Payment.scope hPayment⟩
  · rintro ⟨hFee, hScope⟩
    have hNetwork : d.payment.network = c.payment.network :=
      congrArg Config.network (hd.config_eq.trans hc.config_eq.symm)
    exact
      congrArg Payment.fingerprint
        (Payment.ext hNetwork hOutputs hFee hScope)

/-
  A composition that can be paid agrees with one of the same
  rows, which can be paid as well, exactly if the fee and the
  scope are the same and the total can be spent there.
-/
theorem agrees_iff
    (hc : Sound config c)
    (hd : Sound config d)
    (hEmpty : c.problems.IsEmpty)
    (hRows : d.rows = c.rows)
    (hSeparates :
      Sha256.Separates
        [c.payment.canonicalText, d.payment.canonicalText]) :
    d.fingerprint = c.fingerprint ∧ d.problems.IsEmpty ↔
      d.fee = c.fee ∧ d.scope = c.scope ∧
        c.outcome.totals.out ≤ d.balance.spendable := by
  rcases (isEmpty_problems_iff hc).mp hEmpty with
    ⟨hSome, hPayable, _⟩
  rw [fingerprint_eq_iff hc hd hRows hSeparates, and_assoc]
  refine and_congr_right (fun hFee => and_congr_right (fun _ => ?_))
  have hExact : d.exactOut = c.exactOut := by
    unfold exactOut
    rw [hRows, hFee]
  rw [isEmpty_problems_iff hd, hRows, hExact, Amount.le_iff,
    units_out hc hEmpty]
  exact ⟨fun h => h.2.2, fun h => ⟨hSome, hPayable, h⟩⟩

end Composition

------------------------------------------------------------
-- What Becomes of a Review
------------------------------------------------------------

namespace Flow

variable {config : Config} {log : Log} {f g h : Flow}

/- The draft under review is still held there. -/
def KeepsReview (f g : Flow) : Prop :=
  g.stage = .reviewing ∧
    ∃ draft, f.draft = some draft ∧ g.draft = some draft

/- The draft is gone, and the same rows are composed. -/
def LeavesReview (f g : Flow) : Prop :=
  g.stage = .composing ∧
    g.draft = none ∧
      g.composition.rows = f.composition.rows

/-
  A review goes on exactly if something is so, and is left
  otherwise. At other stages neither stage nor draft changes.
-/
structure ReviewLastsIff
    (f : Flow)
    (fits : Prop)
    (g : Flow) : Prop where
  keeps_iff : f.stage = .reviewing → (f.KeepsReview g ↔ fits)
  leaves_iff : f.stage = .reviewing → (f.LeavesReview g ↔ ¬ fits)
  elsewhere :
    f.stage ≠ .reviewing → g.stage = f.stage ∧ g.draft = f.draft

/-
  A draft that is not stale does not become so as long as the
  fingerprint is the same and there are no problems.
-/
theorem not_isStale_iff_of_draft
    (hFresh : ¬ f.IsStale)
    (hDraft : h.draft = f.draft) :
    ¬ h.IsStale ↔
      h.composition.fingerprint = f.composition.fingerprint ∧
        h.composition.problems.IsEmpty := by
  rcases not_isStale_iff.mp hFresh with
    ⟨⟨draft, hHeld, hMatches⟩, _⟩
  unfold Draft.Matches at hMatches
  rw [not_isStale_iff, hDraft, hHeld]
  simp only [Option.some.injEq, exists_eq_left', Draft.Matches,
    hMatches]
  rw [eq_comm]

/- A stale draft is let go of, and the rows stay. -/
theorem leavesReview_of_isStale
    (hReviewing : h.stage = .reviewing)
    (hStale : h.IsStale)
    (hRows : h.composition.rows = f.composition.rows) :
    f.LeavesReview h.dropStale.publish := by
  rw [dropStale_eq_publish hReviewing hStale]
  refine ⟨?_, ?_, ?_⟩
  · rw [publish_stage, publish_stage]
  · rw [publish_draft, publish_draft]
    rfl
  · rw [publish_composition, publish_composition]
    exact hRows

/- A draft that is not stale is kept. -/
theorem keepsReview_of_not_isStale
    (hReviewing : h.stage = .reviewing)
    (hFresh : ¬ h.IsStale)
    (hDraft : h.draft = f.draft) :
    f.KeepsReview h.dropStale.publish := by
  rcases (not_isStale_iff.mp hFresh).1 with ⟨draft, hHeld, _⟩
  rw [dropStale_eq_self (fun hBoth => hFresh hBoth.2)]
  refine ⟨?_, draft, ?_, ?_⟩
  · rw [publish_stage]
    exact hReviewing
  · rw [← hDraft]
    exact hHeld
  · rw [publish_draft]
    exact hHeld

/- A review is not both kept and left. -/
theorem LeavesReview.not_keepsReview
    (hLeaves : f.LeavesReview g) :
    ¬ f.KeepsReview g := by
  rintro ⟨hReviewing, _⟩
  rw [hLeaves.1] at hReviewing
  cases hReviewing

/-
  The review goes on with what was refreshed exactly if that
  does not make the draft stale.
-/
theorem reviewLastsIff_dropStale
    {fits : Prop}
    (hStage : h.stage = f.stage)
    (hDraft : h.draft = f.draft)
    (hRows : h.composition.rows = f.composition.rows)
    (hFits : f.stage = .reviewing → (¬ h.IsStale ↔ fits)) :
    f.ReviewLastsIff fits h.dropStale.publish := by
  by_cases hReviewing : f.stage = .reviewing
  · have hStill := hStage.trans hReviewing
    have hFits := hFits hReviewing
    by_cases hStale : h.IsStale
    · have hLeaves := leavesReview_of_isStale hStill hStale hRows
      have hNot : ¬ fits := fun hFit => hFits.mpr hFit hStale
      exact
        ⟨fun _ => iff_of_false hLeaves.not_keepsReview hNot,
          fun _ => iff_of_true hLeaves hNot,
          fun hElse => absurd hReviewing hElse⟩
    · have hKeeps := keepsReview_of_not_isStale hStill hStale hDraft
      have hFit := hFits.mp hStale
      exact
        ⟨fun _ => iff_of_true hKeeps hFit,
          fun _ =>
            iff_of_false (fun hLeaves => hLeaves.not_keepsReview hKeeps)
              (fun hNot => hNot hFit),
          fun hElse => absurd hReviewing hElse⟩
  · have hSame : h.dropStale = h :=
      dropStale_eq_self (fun hBoth => hReviewing (hStage ▸ hBoth.1))
    refine
      ⟨fun hIs => absurd hIs hReviewing,
        fun hIs => absurd hIs hReviewing, fun _ => ?_⟩
    rw [hSame, publish_stage, publish_draft]
    exact ⟨hStage, hDraft⟩

/- Showing what was refreshed leaves the composition alone. -/
theorem refreshed_composition
    (h : Flow) :
    h.dropStale.publish.composition = h.composition := by
  rw [publish_composition]
  by_cases hStale : h.stage = .reviewing ∧ h.IsStale
  · rw [dropStale_eq_publish hStale.1 hStale.2, publish_composition]
    rfl
  · rw [dropStale_eq_self hStale]

------------------------------------------------------------
-- Refreshes
------------------------------------------------------------

/-
  What a refresh that succeeds makes of a flow: it takes over
  bounds, or a scope that stands together with a balance, and
  either ends a review that these do not fit.
-/
inductive Refreshes (f : Flow) :
    Action → List Answered → Flow → Prop where
| bounds
    (bounds : FeeBounds)
    (g : Flow)
    (hComposition : g.composition = f.composition.setBounds bounds)
    (hLasts :
      f.ReviewLastsIff (g.composition.fee = f.composition.fee) g) :
    f.Refreshes .refreshBounds [⟨.bounds, .ok bounds⟩] g
| balances
    (sources : List Source)
    (reply : Except EngineError Balance)
    (g : Flow)
    (hScope :
      g.composition.scope =
        (f.composition.scope.resolve sources).scope)
    (hBalance :
      g.composition.balance =
        match reply with
        | .ok told => told
        | .error _ => (f.composition.scope.resolve sources).balance)
    (hLasts :
      f.ReviewLastsIff
        ((f.composition.scope.resolve sources).demoted = false ∧
          f.composition.outcome.totals.out ≤
            g.composition.balance.spendable)
        g) :
    f.Refreshes .refreshBalances
      [⟨.sources, .ok sources⟩,
        ⟨.balance (f.composition.scope.resolve sources).scope,
          reply⟩]
      g

/- The composition that a list of sources and a balance lead to. -/
def relisted
    (f : Flow)
    (sources : List Source)
    (balance : Balance) : Composition :=
  (f.composition.setScope
    (f.composition.scope.resolve sources).scope).setBalance balance

section Relisted

variable (sources : List Source) (balance : Balance)

/- Whether the scope is given up or not, it is the one resolved. -/
theorem setBalance_listed :
    (f.listed sources).composition.setBalance balance =
      f.relisted sources balance := by
  unfold listed relisted
  change Composition.setBalance (ite _ _ _) _ = _
  split
  · rfl
  · rename_i hKept
    have hStands := Bool.eq_false_iff.mpr hKept
    rw [Scope.scope_resolve hStands]
    rfl

/- Neither the scope nor the balance matters for the fee. -/
theorem relisted_fee
    (hc : Composition.Sound config f.composition) :
    (f.relisted sources balance).fee = f.composition.fee := by
  unfold Composition.fee
  rw [hc.outcome_eq]
  rfl

/- A scope is given up exactly if it is resolved to another one. -/
theorem demoted_eq_false_iff :
    (f.composition.scope.resolve sources).demoted = false ↔
      (f.relisted sources balance).scope = f.composition.scope := by
  change _ ↔ (f.composition.scope.resolve sources).scope = _
  constructor
  · exact Scope.scope_resolve
  · intro hSame
    have hStands := f.composition.scope.stands_resolve sources
    rw [hSame] at hStands
    rw [Scope.resolve_of_stands hStands]

end Relisted

/-
  What is refreshed is fine for a draft exactly if neither the
  fee nor the scope changes and the total can be spent.
-/
theorem not_isStale_iff_of_reachable
    (hr : Run.Reachable config ⟨.resting f, log⟩)
    (hReviewing : f.stage = .reviewing)
    (hReached : Composition.Reachable config h.composition)
    (hDraft : h.draft = f.draft)
    (hRows : h.composition.rows = f.composition.rows)
    (hSeparates :
      Sha256.Separates
        [f.composition.payment.canonicalText,
          h.composition.payment.canonicalText]) :
    ¬ h.IsStale ↔
      h.composition.fee = f.composition.fee ∧
        h.composition.scope = f.composition.scope ∧
          f.composition.outcome.totals.out ≤
            h.composition.balance.spendable := by
  have hFresh := hr.settled.not_stale hReviewing
  rw [not_isStale_iff_of_draft hFresh hDraft]
  exact
    Composition.agrees_iff
      (Composition.sound_of_reachable hr.accords.composed)
      (Composition.sound_of_reachable hReached)
      (not_isStale_iff.mp hFresh).2 hRows hSeparates

/- Other bounds are fine for a draft exactly if the fee is the same. -/
theorem not_isStale_setBounds_iff
    {bounds : FeeBounds}
    (hr : Run.Reachable config ⟨.resting f, log⟩)
    (hReviewing : f.stage = .reviewing)
    (hComposition : h.composition = f.composition.setBounds bounds)
    (hDraft : h.draft = f.draft)
    (hSeparates :
      Sha256.Separates
        [f.composition.payment.canonicalText,
          h.composition.payment.canonicalText]) :
    ¬ h.IsStale ↔ h.composition.fee = f.composition.fee := by
  have hComposed : Composition.Reachable config f.composition :=
    hr.accords.composed
  have hFresh := hr.settled.not_stale hReviewing
  have hCovered :=
    Composition.out_le_spendable
      (Composition.sound_of_reachable hComposed)
      (not_isStale_iff.mp hFresh).2
  have hReached : Composition.Reachable config h.composition := by
    rw [hComposition]
    exact hComposed.setBounds bounds
  have hRows : h.composition.rows = f.composition.rows := by
    rw [hComposition]
    rfl
  rw [not_isStale_iff_of_reachable hr hReviewing hReached hDraft hRows
    hSeparates]
  rw [hComposition]
  exact ⟨fun hAll => hAll.1, fun hFee => ⟨hFee, rfl, hCovered⟩⟩

/-
  Other sources and another balance are fine for a draft exactly
  if the scope stands and the balance covers the total.
-/
theorem not_isStale_relisted_iff
    {sources : List Source}
    {balance : Balance}
    (hr : Run.Reachable config ⟨.resting f, log⟩)
    (hReviewing : f.stage = .reviewing)
    (hComposition : h.composition = f.relisted sources balance)
    (hDraft : h.draft = f.draft)
    (hSeparates :
      Sha256.Separates
        [f.composition.payment.canonicalText,
          h.composition.payment.canonicalText]) :
    ¬ h.IsStale ↔
      (f.composition.scope.resolve sources).demoted = false ∧
        f.composition.outcome.totals.out ≤
          h.composition.balance.spendable := by
  have hComposed : Composition.Reachable config f.composition :=
    hr.accords.composed
  have hReached : Composition.Reachable config h.composition := by
    rw [hComposition]
    exact (hComposed.setScope _).setBalance balance
  have hRows : h.composition.rows = f.composition.rows := by
    rw [hComposition]
    rfl
  rw [not_isStale_iff_of_reachable hr hReviewing hReached hDraft hRows
    hSeparates]
  rw [hComposition, demoted_eq_false_iff sources balance]
  exact
    and_iff_right
      (relisted_fee sources balance
        (Composition.sound_of_reachable hComposed))

/-
  Every refresh that succeeds keeps or ends a review by what it
  has to fit. A flow under review is one that some run led to;
  at any other stage it may be any flow.
-/
theorem refreshes_of_given
    {a : Action}
    {replies : List Answered}
    (hRefresh : a = .refreshBounds ∨ a = .refreshBalances)
    (hReached :
      f.stage = .reviewing →
        ∃ log, Run.Reachable config ⟨.resting f, log⟩)
    (hGiven :
      (f.perform a).given replies =
        some (.ended g (.refreshed true)))
    (hSeparates :
      Sha256.Separates
        [f.composition.payment.canonicalText,
          g.composition.payment.canonicalText]) :
    f.Refreshes a replies g := by
  rcases hRefresh with rfl | rfl
  · cases concludes_refreshBounds hGiven with
    | bounded bounds =>
        rw [refreshed_composition] at hSeparates
        refine .bounds bounds _ (refreshed_composition _) ?_
        rw [refreshed_composition]
        apply reviewLastsIff_dropStale
        · rfl
        · rfl
        · rfl
        · intro hReviewing
          rcases hReached hReviewing with ⟨log, hr⟩
          exact
            not_isStale_setBounds_iff hr hReviewing rfl rfl
              hSeparates
  · cases concludes_refreshBalances hGiven with
    | listed sources reply balance hBalance =>
        rw [setBalance_listed] at hSeparates ⊢
        rw [refreshed_composition] at hSeparates
        refine .balances sources reply _ ?_ ?_ ?_
        · rw [refreshed_composition]
          rfl
        · rw [refreshed_composition]
          exact hBalance
        · rw [refreshed_composition]
          apply reviewLastsIff_dropStale
          · rfl
          · rfl
          · rfl
          · intro hReviewing
            rcases hReached hReviewing with ⟨log, hr⟩
            exact
              not_isStale_relisted_iff hr hReviewing rfl rfl
                hSeparates

/- A refresh succeeds with any sources and any balance. -/
theorem given_refreshBalances
    (f : Flow)
    (sources : List Source)
    (told : Balance) :
    (f.perform .refreshBalances).given
        [⟨.sources, .ok sources⟩,
          ⟨.balance (f.composition.scope.resolve sources).scope,
            .ok told⟩] =
      some
        (Flow.refreshed
          { f.listed sources with
            composition := f.relisted sources told }) := by
  rw [← setBalance_listed]
  exact
    (Progress.given_cons f _ _ _).trans
      (Progress.given_cons (f.listed sources) _ _ _)

/- Once nothing can be spent, the review of the one row is left. -/
theorem refreshes_of_given_specimen :
    ∃ (f g : Flow) (log : Log),
      Run.Reachable (Config.ofNetwork .mainnet)
          ⟨.resting f, log⟩ ∧
        f.stage = .reviewing ∧
        (f.perform .refreshBalances).given
            [⟨.sources, .ok []⟩, ⟨.balance .auto, .ok .zero⟩] =
          some (.ended g (.refreshed true)) ∧
        f.Refreshes .refreshBalances
          [⟨.sources, .ok []⟩, ⟨.balance .auto, .ok .zero⟩] g ∧
        f.LeavesReview g := by
  rcases Run.reviewing_affluent with
    ⟨f, log, hReached, hReviewing, hComposition⟩
  have hScope : (f.composition.scope.resolve []).scope = .auto := by
    rw [hComposition]
    rfl
  have hSame :
      (f.relisted [] .zero).payment = f.composition.payment := by
    unfold relisted
    rw [hComposition]
    rfl
  have hSeparates :=
    Sha256.separates_pair
      (congrArg Payment.canonicalText hSame.symm)
  have hGiven := given_refreshBalances f [] .zero
  have hRefreshes :=
    refreshes_of_given (Or.inr rfl) (fun _ => ⟨log, hReached⟩)
      hGiven (by rw [refreshed_composition]; exact hSeparates)
  rw [← hScope]
  refine ⟨f, _, log, hReached, hReviewing, hGiven, hRefreshes, ?_⟩
  cases hRefreshes with
  | balances sources reply _ hScope hBalance hLasts =>
      apply (hLasts.leaves_iff hReviewing).mpr
      rintro ⟨_, hCovered⟩
      rw [hBalance, hComposition] at hCovered
      revert hCovered
      decide +kernel

end Flow

end Remit
