import Remit.Proofs.Flow.Paying
import Remit.Proofs.Scope.Resolution

/-
  This file shows that the scope, the balance and the sources
  that a flow knows of agree at any time. The scope is never an
  empty choice of addresses, and it stands among the sources
  that were listed last. The balance is what these sources hold
  in the scope, if the engine told so or could not tell.

  Key definitions include:
    * `Flow.Funds`
    * `Flow.Log.listed?`
    * `Flow.Log.IsFair`
    * `Flow.Funds.IsSound`
    * `Progress.LeavesFunds`
    * `Flow.Run.IsFunded`

  Key theorems include:
    * `Flow.Funds.IsSound.reach`
    * `Flow.isSound_changed`
    * `Flow.leavesFunds_perform`
    * `Flow.funding_isKept`
    * `Flow.Run.isFunded_of_reachable`
-/

namespace Remit

namespace Flow

------------------------------------------------------------
-- Listings and Balances in a Log
------------------------------------------------------------

/-
  Replies that a flow takes funds from: a list of the sources,
  and whatever follows a question for the balance.
-/
def Event.tellsFunds : Event → Bool
| replied .sources (.ok _) => true
| replied (.balance _) _ => true
| _ => false

namespace Log

/- The sources as they were listed last. -/
def listed? : Log → Option (List Source)
| [] => none
| .replied .sources (.ok sources) :: _ => some sources
| _ :: log => listed? log

/-
  The last listing was followed by the balance that its sources
  hold in the scope asked about, or by a failure to tell it.
-/
def IsFair : Log → Prop
| [] => False
| .replied .sources (.ok _) :: _ => False
| .replied (.balance scope) reply :: log =>
    ∀ balance, reply = .ok balance →
      ∃ sources, listed? log = some sources ∧
        balance = scope.balance sources
| _ :: log => IsFair log

/- Other events list nothing. -/
theorem listed?_cons
    {e : Event}
    (log : Log)
    (h : e.tellsFunds = false) :
    Log.listed? (e :: log) = log.listed? := by
  unfold Event.tellsFunds at h
  split at h
  · cases h
  · cases h
  · rw [listed?.eq_def]
    split <;> simp_all

/- Other events are neither fair nor unfair. -/
theorem isFair_cons
    {e : Event}
    (log : Log)
    (h : e.tellsFunds = false) :
    Log.IsFair (e :: log) ↔ log.IsFair := by
  unfold Event.tellsFunds at h
  split at h
  · cases h
  · cases h
  · rw [IsFair.eq_def]
    split <;> simp_all

end Log

------------------------------------------------------------
-- Funds
------------------------------------------------------------

/- What a flow has chosen and knows of the funds. -/
structure Funds where
  scope : Scope
  balance : Balance
  sources : Option (List Source)

/- The funds as a flow has them. -/
def funds (f : Flow) : Funds where
  scope := f.composition.scope
  balance := f.composition.balance
  sources := f.sources

/-
  Funds agree with the log: the scope is proper and stands among
  the sources that were listed last, and a balance that was told
  fairly is that of the scope.
-/
structure Funds.IsSound (log : Log) (s : Funds) : Prop where
  proper : s.scope.IsProper
  sources_eq : s.sources = log.listed?
  stands :
    ∀ sources, s.sources = some sources → s.scope.Stands sources
  balance_eq :
    log.IsFair →
      ∀ sources, s.sources = some sources →
        s.balance = s.scope.balance sources

namespace Funds

variable {log : Log} {s : Funds}

/- Other events leave funds sound. -/
theorem IsSound.push
    {e : Event}
    (h : s.IsSound log)
    (he : e.tellsFunds = false) :
    s.IsSound (e :: log) where
  proper := h.proper
  sources_eq := by
    rw [Log.listed?_cons log he]
    exact h.sources_eq
  stands := h.stands
  balance_eq := by
    rw [Log.isFair_cons log he]
    exact h.balance_eq

/- What is shown leaves funds sound. -/
theorem IsSound.show
    (h : s.IsSound log)
    (old f : Flow) :
    s.IsSound (log.show old f) := by
  unfold Log.show
  induction f.shownSince old with
  | nil => exact h
  | cons t ts ih => exact ih.push (by simp [Event.tellsFunds])

/- Getting to the next point of an action leaves funds sound. -/
theorem IsSound.reach
    (h : s.IsSound log)
    (a : Action)
    (old : Flow)
    (p : Progress) :
    s.IsSound (log.reach a old p) := by
  cases p with
  | ended f verdict =>
      exact (h.show old f).push (by simp [Event.tellsFunds])
  | waiting f call resume =>
      exact (h.show old f).push (by simp [Event.tellsFunds])

end Funds

------------------------------------------------------------
-- Parts of a Flow That Funds Are Not
------------------------------------------------------------

section Funds

variable {f g : Flow}

@[simp]
theorem funds_publish
    (f : Flow) :
    f.publish.funds = f.funds := by
  unfold publish
  split <;> rfl

@[simp]
theorem funds_goTo
    (f : Flow)
    (target : Stage) :
    (f.goTo target).funds = f.funds :=
  funds_publish _

@[simp]
theorem funds_subscribe
    (f : Flow) :
    f.subscribe.funds = f.funds := by
  unfold subscribe
  split <;> rfl

@[simp]
theorem funds_renew
    (f : Flow) :
    f.renew.funds = f.funds := by
  unfold renew
  split <;> rfl

/- Stages are left without a change of the funds. -/
theorem funds_moveTo?
    {target : Stage}
    (h : f.moveTo? target = .ok g) :
    g.funds = f.funds := by
  unfold moveTo? at h
  split at h
  · cases h
    exact funds_publish _
  · cases h

@[simp]
theorem funds_dropStale
    (f : Flow) :
    f.dropStale.funds = f.funds := by
  unfold dropStale
  split
  · split
    · rename_i hMoved
      have hKept := funds_moveTo? hMoved
      exact hKept
    · rfl
  · rfl

/- Entering something changes neither scope nor balance. -/
theorem funds_enter
    {entry : Entry}
    {c : Composition}
    (h : f.composition.enter entry = .ok c) :
    funds { f with composition := c } = f.funds := by
  rcases Composition.isEntered_of_enter h with ⟨_, _, _, rfl, _⟩
  rfl

/- Making sure of a row leaves the funds as they are. -/
theorem funds_firstRow?
    (h : f.firstRow? = .ok g) :
    g.funds = f.funds := by
  unfold firstRow? at h
  split at h
  · cases hAdd : f.composition.enter (.add Recipient.blank) with
    | error e =>
        rw [hAdd] at h
        cases h
    | ok c =>
        rw [hAdd] at h
        cases h
        exact funds_enter hAdd
  · cases h
    rfl

end Funds

------------------------------------------------------------
-- Choosing a Scope
------------------------------------------------------------

section Change

variable {log : Log} {f g : Flow}

/-
  A scope that is chosen is resolved at once, or as soon as the
  sources are known.
-/
theorem isSound_selectScope
    {scope : Scope}
    (h : f.funds.IsSound log)
    (hSelected : f.selectScope scope = .ok g) :
    g.funds.IsSound log := by
  rcases selectScope_eq_ok hSelected with
    ⟨hSome, ⟨hNone, rfl⟩ | ⟨known, hKnown, rfl⟩⟩
  · have hUnknown : ∀ sources, f.sources ≠ some sources := by
      simp [hNone]
    constructor
    · exact Scope.isProper_iff.mpr hSome
    · exact h.sources_eq
    · intro sources hSources
      exact absurd hSources (hUnknown sources)
    · intro _ sources hSources
      exact absurd hSources (hUnknown sources)
  · have hSame :
        ∀ sources, f.sources = some sources → known = sources := by
      simp [hKnown]
    have hStands := Scope.stands_resolve scope known
    constructor
    · exact Scope.isProper_of_stands hStands
    · exact h.sources_eq
    · intro sources hSources
      cases hSame sources hSources
      exact hStands
    · intro _ sources hSources
      cases hSame sources hSources
      exact Scope.balance_resolve scope known

/- A change that is taken keeps the funds sound. -/
theorem isSound_changed
    {change : Change}
    (h : f.funds.IsSound log)
    (hChanged : f.changed change = .ok g) :
    g.funds.IsSound log := by
  cases change with
  | enter entry =>
      cases hEnter : f.composition.enter entry with
      | error e =>
          simp only [changed, hEnter] at hChanged
          cases hChanged
      | ok c =>
          simp only [changed, hEnter] at hChanged
          cases hChanged
          rw [funds_enter hEnter]
          exact h
  | scope scope => exact isSound_selectScope h hChanged
  | toggle id => exact isSound_selectScope h hChanged

end Change

end Flow

------------------------------------------------------------
-- Actions That Leave the Funds
------------------------------------------------------------

/- The funds stay as they are, and no call is about them. -/
def Progress.LeavesFunds (s : Flow.Funds) : Progress → Prop
| .ended f _ => f.funds = s
| .waiting f call resume =>
    f.funds = s ∧
      (∀ reply, (Flow.Event.replied call reply).tellsFunds = false) ∧
        ∀ reply, (resume reply).LeavesFunds s

namespace Flow

section Leaves

variable {f g : Flow} {s : Funds}

/- An action that ends at another stage leaves the funds. -/
theorem leavesFunds_endAt
    (h : f.funds = s)
    (target : Stage)
    (verdict : Verdict) :
    (f.endAt target verdict).LeavesFunds s := by
  unfold endAt
  split
  · rename_i hMoved
    exact (funds_moveTo? hMoved).trans h
  · exact h

/- An action that ends with a failure leaves the funds. -/
theorem leavesFunds_record
    (f : Flow)
    (e : SendError) :
    (f.record e).LeavesFunds f.funds :=
  funds_publish _

/- Whatever was refreshed, the funds are left when it is shown. -/
theorem leavesFunds_refreshed
    (h : f.funds = s) :
    f.refreshed.LeavesFunds s := by
  change f.dropStale.publish.funds = s
  simp [h]

/- Starting leaves the funds. -/
theorem leavesFunds_start
    (hStage : f.stage ∈ [.idle, .complete]) :
    f.start.LeavesFunds f.funds := by
  have hRenewed : f.renew.forget.funds = f.funds :=
    funds_renew f
  cases hFirst : f.renew.forget.firstRow? with
  | error e =>
      unfold start
      rw [if_pos hStage]
      simp only [hFirst]
      exact hRenewed
  | ok g =>
      rw [start_eq_ended hStage hFirst]
      have hRow := (funds_firstRow? hFirst).trans hRenewed
      exact (funds_goTo g .composing).trans hRow

/- What was built, or why not, leaves the funds. -/
theorem leavesFunds_built
    (r : Request)
    (reply : Except EngineError Draft)
    (h : f.funds = s) :
    (f.built r reply).LeavesFunds s := by
  cases reply with
  | ok draft =>
      apply leavesFunds_endAt
      exact h
  | error cause =>
      apply leavesFunds_endAt
      exact h

/- Reviewing leaves the funds. -/
theorem leavesFunds_review
    (hStage : f.stage = .composing) :
    f.review.LeavesFunds f.funds := by
  cases hValid : f.composition.validate with
  | error ps =>
      rw [review_eq_record hStage hValid]
      exact leavesFunds_record f _
  | ok r =>
      rw [review_eq_waiting hStage hValid]
      refine ⟨funds_publish _, ?_, ?_⟩
      · intro reply
        simp [Event.tellsFunds]
      · intro reply
        exact leavesFunds_built r reply (funds_publish _)

/- What was broadcast, or why not, leaves the funds. -/
theorem leavesFunds_sent
    (reply : Except EngineError String)
    (h : f.funds = s) :
    (f.sent reply).LeavesFunds s := by
  cases reply with
  | ok txid =>
      apply leavesFunds_endAt
      exact h
  | error cause =>
      apply leavesFunds_endAt
      exact h

/- What was signed, or why not, leaves the funds. -/
theorem leavesFunds_signed
    (reply : Except EngineError Signed)
    (h : f.funds = s) :
    (f.signed reply).LeavesFunds s := by
  cases reply with
  | error cause =>
      apply leavesFunds_endAt
      exact h
  | ok signed =>
      cases hMoved : f.moveTo? .broadcasting with
      | error e =>
          simp only [Flow.signed, hMoved]
          exact h
      | ok g =>
          have hFunds := (funds_moveTo? hMoved).trans h
          simp only [Flow.signed, hMoved]
          refine ⟨hFunds, ?_, ?_⟩
          · intro reply
            simp [Event.tellsFunds]
          · intro reply
            exact leavesFunds_sent reply hFunds

/- Confirming leaves the funds. -/
theorem leavesFunds_confirm
    (hStage : f.stage = .reviewing) :
    f.confirm.LeavesFunds f.funds := by
  cases hDraft : f.draft with
  | none =>
      unfold confirm
      simp only [if_pos hStage, hDraft]
      rfl
  | some draft =>
      by_cases hMatches : draft.Matches f.composition.fingerprint
      · rw [confirm_eq_waiting hStage hDraft hMatches]
        refine ⟨funds_publish _, ?_, ?_⟩
        · intro reply
          simp [Event.tellsFunds]
        · intro reply
          exact leavesFunds_signed reply (funds_publish _)
      · unfold confirm
        simp only [if_pos hStage, hDraft, if_neg hMatches]
        rfl

/- Refreshing the bounds of the fee leaves the funds. -/
theorem leavesFunds_refreshBounds
    (f : Flow) :
    f.refreshBounds.LeavesFunds f.funds := by
  unfold refreshBounds
  refine ⟨rfl, ?_, ?_⟩
  · intro reply
    simp [Event.tellsFunds]
  · intro reply
    cases reply with
    | ok bounds => exact leavesFunds_refreshed rfl
    | error cause => rfl

/- All but two actions leave the funds as they are. -/
theorem leavesFunds_perform
    {a : Action}
    (hChange : ∀ change, a ≠ .change change)
    (hRefresh : a ≠ .refreshBalances) :
    (f.perform a).LeavesFunds f.funds := by
  by_cases hStage : f.stage ∈ a.stages
  · cases a with
    | start => exact leavesFunds_start hStage
    | cancel =>
        have hEnded := cancel_eq_ended (List.mem_singleton.mp hStage)
        change f.cancel.LeavesFunds f.funds
        rw [hEnded]
        exact funds_goTo _ .idle
    | change change => exact absurd rfl (hChange change)
    | review => exact leavesFunds_review (List.mem_singleton.mp hStage)
    | edit =>
        have hEnded := edit_eq_ended (List.mem_singleton.mp hStage)
        change f.edit.LeavesFunds f.funds
        rw [hEnded]
        exact funds_goTo _ .composing
    | confirm =>
        exact leavesFunds_confirm (List.mem_singleton.mp hStage)
    | retry =>
        have hEnded := retry_eq_ended (List.mem_singleton.mp hStage)
        change f.retry.LeavesFunds f.funds
        rw [hEnded]
        exact funds_goTo _ .composing
    | refreshBounds => exact leavesFunds_refreshBounds f
    | refreshBalances => exact absurd rfl hRefresh
  · rw [perform_eq_refused hStage]
    rfl

end Leaves

------------------------------------------------------------
-- The Contract
------------------------------------------------------------

/- At any point the funds are sound. -/
def funding : Contract where
  atRest := fun log f => f.funds.IsSound log
  atCall := fun _ log f _ => f.funds.IsSound log
  atEnd := fun _ log f _ => f.funds.IsSound log
  change := fun _ _ => True

variable {log : Log} {f g : Flow} {a : Action} {p : Progress}

/- An action ends with sound funds. -/
theorem continues_ended_funding
    {verdict : Verdict}
    (h : g.funds.IsSound log) :
    funding.Continues a log f (.ended g verdict) :=
  ⟨trivial, h.reach a f (.ended g verdict)⟩

/- An action calls the engine with sound funds, and goes on so. -/
theorem continues_waiting_funding
    {call : EngineCall}
    {resume : call.Reply → Progress}
    (h : g.funds.IsSound log)
    (hReplies :
      ∀ reply earlier, g.funds.IsSound earlier →
        funding.Continues a (.replied call reply :: earlier) g
          (resume reply)) :
    funding.Continues a log f (.waiting g call resume) := by
  have hReached := h.reach a f (.waiting g call resume)
  refine ⟨trivial, hReached, ?_⟩
  intro reply
  exact hReplies reply _ hReached

/-
  An action that leaves sound funds as they are keeps them
  sound. The induction is on what remains of the action.
-/
theorem continues_of_leavesFunds
    {s : Funds}
    (hSound : s.IsSound log)
    (hLeaves : p.LeavesFunds s) :
    funding.Continues a log f p := by
  induction p generalizing log f with
  | ended g verdict =>
      change g.funds = s at hLeaves
      subst hLeaves
      exact continues_ended_funding hSound
  | waiting g call resume ih =>
      rcases hLeaves with ⟨hFunds, hQuiet, hLeaves⟩
      subst hFunds
      apply continues_waiting_funding hSound
      intro reply earlier hCalled
      exact ih reply (hCalled.push (hQuiet reply)) (hLeaves reply)

/- A change of the composition keeps the funds sound. -/
theorem continues_change_funding
    (h : f.funds.IsSound log)
    (change : Change) :
    funding.Continues (.change change)
      (.asked (.change change) :: log) f (f.change change) := by
  have hAsked : f.funds.IsSound (.asked (.change change) :: log) :=
    h.push (by simp [Event.tellsFunds])
  by_cases hStage : f.stage ∈ [.composing, .reviewing]
  · cases hChanged : f.changed change with
    | error e =>
        rw [change_eq_record hStage hChanged]
        exact continues_of_leavesFunds hAsked (leavesFunds_record f e)
    | ok g =>
        have hSound := isSound_changed hAsked hChanged
        rw [change_eq_ended hStage hChanged]
        exact continues_of_leavesFunds hSound (funds_goTo _ .composing)
  · unfold Flow.change
    rw [if_neg hStage]
    exact continues_of_leavesFunds hAsked rfl

/- The scope is resolved against sources that were listed. -/
theorem funds_listed
    (f : Flow)
    (sources : List Source) :
    (f.listed sources).funds =
      ⟨(f.composition.scope.resolve sources).scope,
        f.composition.balance, some sources⟩ := by
  unfold funds listed
  cases hDemoted :
      (f.composition.scope.resolve sources).demoted with
  | true =>
      simp only [hDemoted, if_true]
      rfl
  | false =>
      simp [hDemoted, Scope.scope_resolve hDemoted]

/-
  Funds are sound once sources were listed, whatever they were
  before; their balance is not told yet.
-/
theorem isSound_listed
    (f : Flow)
    (sources : List Source)
    (log : Log) :
    (f.listed sources).funds.IsSound
      (.replied .sources (.ok sources) :: log) := by
  have hStands := Scope.stands_resolve f.composition.scope sources
  rw [funds_listed]
  constructor
  · exact Scope.isProper_of_stands hStands
  · rfl
  · intro known hKnown
    cases hKnown
    exact hStands
  · intro hFair
    cases hFair

/-
  Funds stay sound with the balance that is told, or with that
  of the scope if none can be told.
-/
theorem Funds.IsSound.tell
    {s : Funds}
    {balance : Balance}
    {reply : Except EngineError Balance}
    (h : s.IsSound log)
    (hTold : ∀ told, reply = .ok told → balance = told)
    (hElse :
      ∀ cause, reply = .error cause →
        ∀ sources, s.sources = some sources →
          balance = s.scope.balance sources) :
    Funds.IsSound (.replied (.balance s.scope) reply :: log)
      { s with balance := balance } where
  proper := h.proper
  sources_eq := h.sources_eq
  stands := h.stands
  balance_eq := by
    intro hFair sources hSources
    cases reply with
    | error cause => exact hElse cause rfl sources hSources
    | ok told =>
        rcases hFair told rfl with ⟨known, hListed, hBalance⟩
        have hKnown : known = sources := by
          have hSame := h.sources_eq.symm.trans hSources
          rw [hListed] at hSame
          exact Option.some.inj hSame
        rw [hTold told rfl, hBalance, hKnown]

/- Refreshing the balance keeps the funds sound. -/
theorem continues_refreshBalances_funding
    (h : f.funds.IsSound log) :
    funding.Continues .refreshBalances
      (.asked .refreshBalances :: log) f f.refreshBalances := by
  apply continues_waiting_funding
  · exact h.push (by simp [Event.tellsFunds])
  · intro reply earlier hCalled
    cases reply with
    | error cause =>
        apply continues_ended_funding
        exact hCalled.push (by simp [Event.tellsFunds])
    | ok sources =>
        have hScope :
            (f.listed sources).funds.scope =
              (f.composition.scope.resolve sources).scope :=
          congrArg Funds.scope (funds_listed f sources)
        apply continues_waiting_funding (isSound_listed f sources earlier)
        intro reply earlier hCalled
        refine continues_of_leavesFunds ?_ (leavesFunds_refreshed rfl)
        rw [← hScope]
        apply hCalled.tell
        · intro told hTold
          subst hTold
          rfl
        · intro cause hCause known hKnown
          have hSame : sources = known := Option.some.inj hKnown
          rw [hCause, hScope, ← hSame]
          exact Scope.balance_resolve f.composition.scope sources

------------------------------------------------------------
-- Every Run
------------------------------------------------------------

/- In every run the funds are sound at any point. -/
theorem funding_isKept
    (config : Config) :
    funding.IsKept config where
  new := by
    constructor
    · exact Scope.isProper_auto
    · rfl
    · intro sources hSources
      cases hSources
    · intro hFair
      cases hFair
  subscribe := by
    intro f log h
    refine ⟨trivial, ?_⟩
    change f.subscribe.funds.IsSound _
    rw [funds_subscribe]
    exact h.show f f.subscribe
  perform := by
    intro f log a _ h
    have hAsked : f.funds.IsSound (.asked a :: log) :=
      h.push (by simp [Event.tellsFunds])
    by_cases hChange : ∃ change, a = .change change
    · rcases hChange with ⟨change, rfl⟩
      exact continues_change_funding h change
    · by_cases hRefresh : a = .refreshBalances
      · subst hRefresh
        exact continues_refreshBalances_funding h
      · apply continues_of_leavesFunds hAsked
        apply leavesFunds_perform _ hRefresh
        intro change hEq
        exact hChange ⟨change, hEq⟩
  rest := fun _ _ _ _ h => h

namespace Run

variable {config : Config}

/- The funds of a flow are sound wherever its run stands. -/
theorem Reachable.isSound
    {r : Run}
    (hr : Reachable config r) :
    r.flow.funds.IsSound r.log := by
  have hHolds := (funding_isKept config).holds hr
  rcases r with ⟨f | ⟨a, f | ⟨f, call, resume⟩⟩, log⟩
  · exact hHolds
  · exact hHolds
  · exact hHolds.1

/-
  What a run tells of the funds, wherever it stands:
    * the scope is no empty choice of addresses;
    * the flow knows the sources that were listed last;
    * the scope is resolved to itself among them, and so nothing
      in it has vanished;
    * both parts of the balance are the sum of what the sources
      in the scope hold, or the supply if that is less, once the
      listing was followed by a fair balance or by none.
-/
structure IsFunded (r : Run) : Prop where
  proper :
    ∀ ids, r.flow.composition.scope = .addresses ids →
      ¬ ids.IsEmpty
  known : r.flow.sources = r.log.listed?
  resolved :
    ∀ sources, r.log.listed? = some sources →
      (r.flow.composition.scope.resolve sources).demoted = false ∧
        (r.flow.composition.scope.resolve sources).scope =
          r.flow.composition.scope
  spendable :
    r.log.IsFair →
      ∀ sources, r.log.listed? = some sources →
        r.flow.composition.balance.spendable.units =
          min
            (r.flow.composition.scope.total Source.spendable sources)
            Amount.cap
  pending :
    r.log.IsFair →
      ∀ sources, r.log.listed? = some sources →
        r.flow.composition.balance.pending.units =
          min
            (r.flow.composition.scope.total Source.pending sources)
            Amount.cap

/-
  Scope, sources and balance agree wherever a run stands, even
  while an action waits for the engine.
-/
theorem isFunded_of_reachable
    {r : Run}
    (hr : Reachable config r) :
    r.IsFunded := by
  have hSound := hr.isSound
  have hKnown :
      ∀ sources, r.log.listed? = some sources →
        r.flow.funds.sources = some sources := by
    intro sources hListed
    rw [hSound.sources_eq, hListed]
  have hBalance :
      r.log.IsFair →
        ∀ sources, r.log.listed? = some sources →
          r.flow.composition.balance =
            r.flow.composition.scope.balance sources := by
    intro hFair sources hListed
    exact hSound.balance_eq hFair sources (hKnown sources hListed)
  constructor
  · exact hSound.proper
  · exact hSound.sources_eq
  · intro sources hListed
    have hStands : r.flow.composition.scope.Stands sources :=
      hSound.stands sources (hKnown sources hListed)
    rw [Scope.resolve_of_stands hStands]
    exact ⟨rfl, rfl⟩
  · intro hFair sources hListed
    rw [hBalance hFair sources hListed]
    exact Scope.units_spendable _ sources
  · intro hFair sources hListed
    rw [hBalance hFair sources hListed]
    exact Scope.units_pending _ sources

/- The funds of one key, all that there are. -/
def specimenSource : Source where
  keyId := 7
  addressId := 1
  address := "zs1"
  spendable := .supply
  pending := .zero

/-
  The funds of a key are chosen before any source is known. The
  key is listed later, and its balance cannot be told.
-/
theorem isFunded_of_reachable_specimen :
    ∃ (f : Flow) (log : Log),
      Reachable (Config.ofNetwork .mainnet) ⟨.resting f, log⟩ ∧
        f.composition.scope = .key 7 ∧
        log.listed? = some [specimenSource] ∧
        log.IsFair ∧
        IsFunded ⟨.resting f, log⟩ := by
  have hMost : 0 < (Config.ofNetwork .mainnet).maxRecipients := by
    decide
  have hStands : Scope.Stands (.key 7) [specimenSource] :=
    ⟨specimenSource, List.mem_singleton_self _, rfl⟩
  have hStarted := (Reachable.new.ask (perform_start_new hMost)).rest
  have hChosen :=
    (hStarted.ask (a := .change (.scope (.key 7)))
      (perform_change_composing rfl)).rest
  have hListed :=
    (hChosen.ask (a := .refreshBalances) rfl).answer
      (.ok [specimenSource]) rfl
  have hTold :=
    (hListed.answer (.error ⟨.rejected, "refused"⟩)
      (refreshed_of_unsubscribed Stage.noConfusion rfl)).rest
  refine ⟨_, _, hTold, ?_, rfl, ?_, isFunded_of_reachable hTold⟩
  · refine (congrArg Funds.scope (funds_listed _ _)).trans ?_
    exact congrArg Scope.Resolved.scope (Scope.resolve_of_stands hStands)
  · intro balance hReply
    cases hReply

end Run

end Flow

end Remit
