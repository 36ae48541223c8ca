import Remit.Command.Session
import Remit.Proofs.Except
import Remit.Proofs.Flow.Paying
import Remit.Proofs.Scope.Resolution

/-
  This file follows a command while it composes a payment. When
  it succeeds, the flow composes the payment, nobody has
  subscribed to it, and its balance is what the wallet holds in
  the scope that was chosen. When it fails, the fault lies with
  what was given: the program does not end with an internal
  error.

  Key definitions include:
    * `Command.IsExpected`
    * `Command.FailsExpectedly`
    * `Command.IsReady`

  Key theorems include:
    * `Command.isExpected_problems`
    * `Command.carry_change`
    * `Command.opened_eq`
    * `Command.isReady_of_compose`
    * `Command.failsExpectedly_compose`
    * `Command.compose_now`
-/

namespace Remit.Command

------------------------------------------------------------
-- Expected Failures
------------------------------------------------------------

/- The program does not end with an internal error for this. -/
def IsExpected (e : SendError) : Prop :=
  Exit.ofSendError e ≠ .internal

/- A step fails with nothing but expected failures. -/
def FailsExpectedly {α : Type} (x : Except SendError α) : Prop :=
  ∀ e, x = .error e → IsExpected e

/- Two steps fail as expected if each of them does. -/
theorem FailsExpectedly.bind
    {α β : Type}
    {x : Except SendError α}
    {step : α → Except SendError β}
    (hFirst : FailsExpectedly x)
    (hNext : ∀ a, x = .ok a → FailsExpectedly (step a)) :
    FailsExpectedly (x >>= step) := by
  intro e h
  rcases bind_eq_error_iff.mp h with hError | ⟨a, hOk, hError⟩
  · exact hFirst e hError
  · exact hNext a hOk e hError

/- A step whose failures are all of one kind fails as expected. -/
theorem failsExpectedly_mapError
    {α ε : Type}
    {kind : ε → SendError}
    (x : Except ε α)
    (hKind : ∀ cause, IsExpected (kind cause)) :
    FailsExpectedly (x.mapError kind) := by
  intro e h
  rcases mapError_eq_error_iff.mp h with ⟨cause, _, rfl⟩
  exact hKind cause

/- The lower numbers of the catalogue are not internal. -/
theorem ofTaxonomy_ne_internal_iff
    (t : Taxonomy) :
    Exit.ofTaxonomy t ≠ .internal ↔ t.code < 4000 := by
  cases t <;> decide

/- A failure with a lower number is expected. -/
theorem isExpected_of_code
    {e : SendError}
    (h : e.taxonomy.code < 4000) :
    IsExpected e := by
  have hTaxonomy := (ofTaxonomy_ne_internal_iff e.taxonomy).mpr h
  cases e with
  | file detail => exact Exit.noConfusion
  | json => exact Exit.noConfusion
  | _ => exact hTaxonomy

/- Numbers of what is no amount. -/
theorem code_amountError
    (e : AmountError) :
    e.taxonomy.code < 4000 := by
  cases e <;> exact of_decide_eq_true rfl

/- Numbers of faults. -/
theorem code_fault
    (x : Fault) :
    x.taxonomy.code < 4000 := by
  cases x with
  | badAddress cause => cases cause <;> exact of_decide_eq_true rfl
  | badAmount cause => exact code_amountError cause
  | _ => exact of_decide_eq_true rfl

/- Numbers of shortfalls. -/
theorem code_shortfall
    (s : Shortfall) :
    s.taxonomy.code < 4000 := by
  unfold Shortfall.taxonomy
  split <;> decide

/- Numbers of imports that fail. -/
theorem code_importError
    (e : ImportError) :
    e.taxonomy.code < 4000 := by
  cases e <;> exact of_decide_eq_true rfl

/- Numbers of refused values. -/
theorem code_flagError
    (e : FlagError) :
    e.taxonomy.code < 4000 := by
  cases e <;> exact of_decide_eq_true rfl

/- Whatever keeps a composition from being paid is expected. -/
theorem isExpected_problems
    (p : Problems) :
    IsExpected (.problems p) := by
  apply isExpected_of_code
  change p.taxonomy.code < 4000
  unfold Problems.taxonomy
  split
  · exact code_fault _
  · exact code_shortfall _
  · decide

------------------------------------------------------------
-- Carrying Out Changes
------------------------------------------------------------

variable
  {w : Wallet} {now now' : Time} {config : Config} {f g : Flow}
  {change : Change}

/- A change ends at once. -/
theorem change_eq_ended
    (f : Flow)
    (change : Change) :
    ∃ g verdict, f.perform (.change change) = .ended g verdict := by
  change ∃ g verdict, f.change change = .ended g verdict
  unfold Flow.change
  split
  · split
    · exact ⟨_, _, rfl⟩
    · split
      · unfold Flow.endAt
        split <;> exact ⟨_, _, rfl⟩
      · exact ⟨_, _, rfl⟩
  · exact ⟨_, _, rfl⟩

/- What an action that has ended was carried out to. -/
def carriedTo (g : Flow) : Verdict → Except SendError Flow
| .refused cause => .error cause
| _ => .ok g

/- An action that ends at once is carried out, or refused. -/
theorem carry_of_ended
    {a : Action}
    {verdict : Verdict}
    (hEnded : f.perform a = .ended g verdict) :
    carry w now f a = carriedTo g verdict := by
  unfold carry
  rw [hEnded]
  cases verdict <;> rfl

/- Changes do not depend on the time. -/
theorem carry_change_now
    (w : Wallet)
    (now now' : Time)
    (f : Flow)
    (change : Change) :
    carry w now f (.change change) = carry w now' f (.change change) := by
  rcases change_eq_ended f change with ⟨g, verdict, hEnded⟩
  rw [carry_of_ended hEnded, carry_of_ended hEnded]

/-
  While a payment is composed unseen, a change is carried out as
  far as it can be made, and any draft is let go of.
-/
theorem carry_change
    (hStage : f.stage = .composing)
    (hUnseen : f.published = [])
    (change : Change) :
    carry w now f (.change change) =
      (f.changed change).map Flow.discard := by
  have hMem : f.stage ∈ [Stage.composing, .reviewing] := by
    simp [hStage]
  cases hChanged : f.changed change with
  | error e =>
      have hPerform : f.perform (.change change) = f.record e :=
        Flow.change_eq_record hMem hChanged
      exact carry_of_ended hPerform
  | ok g =>
      have hPerform :
          f.perform (.change change) =
            .ended (g.discard.goTo .composing) .done :=
        Flow.change_eq_ended hMem hChanged
      have hShown : g.discard.goTo .composing = g.discard := by
        rcases Flow.changed_eq_ok hChanged with ⟨c, rfl, _⟩
        unfold Flow.goTo
        rw [← hStage]
        exact Flow.publish_of_unsubscribed hUnseen
      rw [hShown] at hPerform
      exact carry_of_ended hPerform

------------------------------------------------------------
-- Ready Flows
------------------------------------------------------------

/-
  A flow composes a payment unseen, and knows what the wallet
  holds: its balance is that of the scope which it has chosen.
-/
structure IsReady (w : Wallet) (config : Config) (f : Flow) : Prop where
  stage : f.stage = .composing
  unseen : f.published = []
  sources : f.sources = some w.sources
  reachable : Composition.Reachable config f.composition
  balance : f.composition.balance = f.composition.scope.balance w.sources

/- Choosing other funds takes over their balance. -/
theorem balance_selectScope
    {sources : List Source}
    {scope : Scope}
    (hSources : f.sources = some sources)
    (h : f.selectScope scope = .ok g) :
    g.composition.balance = g.composition.scope.balance sources := by
  rcases Flow.selectScope_eq_ok h with
    ⟨_, ⟨hNone, _⟩ | ⟨known, hKnown, rfl⟩⟩
  · rw [hSources] at hNone
    cases hNone
  · rw [hSources] at hKnown
    cases hKnown
    exact Scope.balance_resolve scope sources

/- A change that is taken keeps a flow ready. -/
theorem IsReady.changed
    (h : IsReady w config f)
    (hChanged : f.changed change = .ok g) :
    IsReady w config g.discard := by
  have hBalance :
      g.composition.balance =
        g.composition.scope.balance w.sources := by
    cases change with
    | enter entry =>
        cases hEnter : f.composition.enter entry with
        | error e =>
            simp only [Flow.changed, hEnter] at hChanged
            cases hChanged
        | ok c =>
            simp only [Flow.changed, hEnter] at hChanged
            cases hChanged
            rcases Composition.isEntered_of_enter hEnter with
              ⟨rows, preset, fee, rfl, _⟩
            exact h.balance
    | scope scope => exact balance_selectScope h.sources hChanged
    | toggle id => exact balance_selectScope h.sources hChanged
  rcases Flow.changed_eq_ok hChanged with ⟨c, rfl, hReachable⟩
  exact
    ⟨h.stage, h.unseen, h.sources, hReachable config h.reachable,
      hBalance⟩

/- A change that is carried out keeps a flow ready. -/
theorem IsReady.carried
    (h : IsReady w config f)
    (hCarried : carry w now f (.change change) = .ok g) :
    IsReady w config g := by
  rw [carry_change h.stage h.unseen] at hCarried
  cases hChanged : f.changed change with
  | error e =>
      rw [hChanged] at hCarried
      cases hCarried
  | ok g' =>
      rw [hChanged] at hCarried
      cases hCarried
      exact h.changed hChanged

/- A change that is refused reports why it cannot be made. -/
theorem IsReady.refused
    (h : IsReady w config f)
    {e : SendError}
    (hRefused : carry w now f (.change change) = .error e) :
    f.changed change = .error e := by
  rw [carry_change h.stage h.unseen] at hRefused
  cases hChanged : f.changed change with
  | error e' =>
      rw [hChanged] at hRefused
      cases hRefused
      rfl
  | ok g =>
      rw [hChanged] at hRefused
      cases hRefused

------------------------------------------------------------
-- Opening
------------------------------------------------------------

/- The flow once it was opened with what the wallet holds. -/
def openedWith (w : Wallet) (config : Config) : Flow :=
  let c := (Composition.new config).setRows [Recipient.blank]
  { Flow.composing config
      ((c.setBounds w.bounds).setBalance
        (Scope.auto.balance w.sources)) with
    sources := some w.sources }

/- A new flow is started if rows are allowed. -/
theorem carry_start
    (hMost : 0 < config.maxRecipients) :
    carry w now (Flow.new config) .start =
      .ok
        (Flow.composing config
          ((Composition.new config).setRows [Recipient.blank])) :=
  carry_of_ended (Flow.perform_start_new hMost)

/- Outside the review, what was refreshed is taken over unseen. -/
theorem carry_of_refreshed
    {a : Action}
    (hStage : g.stage = .composing)
    (hUnseen : g.published = [])
    (hRun :
      (f.perform a).run (w.engine now) () =
        g.refreshed.run (w.engine now) ()) :
    carry w now f a = .ok g := by
  have hNot : g.stage ≠ .reviewing := by
    rw [hStage]
    exact Stage.noConfusion
  unfold carry
  rw [hRun, Flow.refreshed_of_unsubscribed hNot hUnseen]
  rfl

/- While a payment is composed unseen, bounds are taken over. -/
theorem carry_refreshBounds
    (hStage : f.stage = .composing)
    (hUnseen : f.published = []) :
    carry w now f .refreshBounds =
      .ok
        { f with composition := f.composition.setBounds w.bounds } := by
  apply carry_of_refreshed
  · exact hStage
  · exact hUnseen
  · rfl

/-
  While a payment out of all funds is composed unseen, the
  sources of the wallet are taken over with their balance.
-/
theorem carry_refreshBalances
    (hStage : f.stage = .composing)
    (hUnseen : f.published = [])
    (hScope : f.composition.scope = .auto) :
    carry w now f .refreshBalances =
      .ok
        { f with
          composition :=
            f.composition.setBalance (Scope.auto.balance w.sources)
          sources := some w.sources } := by
  have hListed :
      f.listed w.sources = { f with sources := some w.sources } := by
    unfold Flow.listed
    rw [hScope]
    rfl
  have hRun :
      (f.perform .refreshBalances).run (w.engine now) () =
        (Flow.refreshed
          { f.listed w.sources with
            composition :=
              (f.listed w.sources).composition.setBalance
                ((f.composition.scope.resolve w.sources).scope.resolve
                  w.sources).balance }).run
          (w.engine now) () :=
    rfl
  rw [hListed, hScope] at hRun
  apply carry_of_refreshed
  · exact hStage
  · exact hUnseen
  · exact hRun

/- Every wallet opens a flow, if rows are allowed. -/
theorem opened_eq
    (w : Wallet)
    (now : Time)
    (hMost : 0 < config.maxRecipients) :
    opened w now config = .ok (openedWith w config) := by
  unfold opened
  refine bind_eq_ok_iff.mpr ⟨_, carry_start hMost, ?_⟩
  refine bind_eq_ok_iff.mpr ⟨_, carry_refreshBounds rfl rfl, ?_⟩
  exact carry_refreshBalances rfl rfl rfl

/- A flow that was opened is ready. -/
theorem isReady_openedWith
    (w : Wallet)
    (hMost : 0 < config.maxRecipients) :
    IsReady w config (openedWith w config) where
  stage := rfl
  unseen := rfl
  sources := rfl
  reachable := by
    have hAdded :
        (Composition.new config).enter (.add Recipient.blank) =
          .ok ((Composition.new config).setRows [Recipient.blank]) :=
      if_neg (Nat.not_le.mpr hMost)
    have hBlank := Composition.Reachable.new.enter _ hAdded
    exact (hBlank.setBounds _).setBalance _
  balance := rfl

/- The settings for a network allow rows, and can be used. -/
theorem config_ofNetwork
    (n : Network) :
    0 < (Config.ofNetwork n).maxRecipients ∧
      (Config.ofNetwork n).check = .ok () := by
  cases n <;> decide

------------------------------------------------------------
-- The Scope
------------------------------------------------------------

/- Applying a scope does not depend on the time. -/
theorem applyScope_now
    (w : Wallet)
    (now now' : Time)
    (f : Flow)
    (scope : Scope) :
    applyScope w now f scope = applyScope w now' f scope := by
  unfold applyScope
  rw [carry_change_now w now now']

/- Applying a scope keeps a flow ready. -/
theorem IsReady.applyScope
    {scope : Scope}
    (h : IsReady w config f)
    (hApplied : applyScope w now f scope = .ok g) :
    IsReady w config g := by
  unfold Command.applyScope at hApplied
  split at hApplied
  · cases hApplied
    exact h
  · rcases bind_eq_ok_iff.mp hApplied with ⟨g', hCarried, hSame⟩
    split at hSame
    · cases hSame
      exact h.carried hCarried
    · cases hSame

/- A change of the scope is refused only if it names no funds. -/
theorem selectScope_eq_error
    {scope : Scope}
    {e : SendError}
    (h : f.selectScope scope = .error e) :
    e = .scope .emptySelection := by
  unfold Flow.selectScope at h
  split at h
  · cases h
    rfl
  · split at h <;> cases h

/- A scope is applied, or fails as expected. -/
theorem IsReady.failsExpectedly_applyScope
    (h : IsReady w config f)
    (now : Time)
    (scope : Scope) :
    FailsExpectedly (Command.applyScope w now f scope) := by
  unfold Command.applyScope
  split
  · intro e hOk
    cases hOk
  · refine .bind ?_ ?_
    · intro e hRefused
      rw [selectScope_eq_error (h.refused hRefused)]
      exact isExpected_of_code (of_decide_eq_true rfl)
    · intro g _ e hOther
      split at hOther
      · cases hOther
      · cases hOther
        exact
          isExpected_of_code
            (code_flagError (.scopeWithoutFunds scope.text))

/- What needs no row is entered, or fails as expected. -/
theorem IsReady.failsExpectedly_enter
    (h : IsReady w config f)
    (now : Time)
    {entry : Entry}
    (hRows : ∀ c : Composition, ∀ row n,
      c.enter entry ≠ .error (.noSuchRow row n)) :
    FailsExpectedly (carry w now f (.change (.enter entry))) := by
  intro e hRefused
  have hChanged := h.refused hRefused
  cases hEnter : f.composition.enter entry with
  | ok c =>
      simp only [Flow.changed, hEnter] at hChanged
      cases hChanged
  | error e' =>
      simp only [Flow.changed, hEnter] at hChanged
      cases hChanged
      rcases Composition.enter_eq_error hEnter with rfl | ⟨row, rfl⟩
      · exact
          isExpected_of_code
            (code_fault
              (.tooManyRecipients
                f.composition.inputs.config.maxRecipients))
      · exact absurd hEnter (hRows _ row _)

/- No row is missing when a fee is entered. -/
theorem enter_fee_ne
    (choice : FeeChoice)
    (c : Composition)
    (row n : Nat) :
    c.enter choice.entry ≠ .error (.noSuchRow row n) := by
  cases choice <;> intro h <;> cases h

/- No row is missing when rows are loaded. -/
theorem enter_load_ne
    (rows : List ImportRow)
    (c : Composition)
    (row n : Nat) :
    c.enter (.load rows) ≠ .error (.noSuchRow row n) := by
  simp only [Composition.enter]
  split <;> intro h <;> cases h

------------------------------------------------------------
-- Composing
------------------------------------------------------------

/- What is composed does not depend on the time. -/
theorem compose_now
    (files : Files)
    (now now' : Time)
    (order : Order) :
    compose files now order = compose files now' order := by
  have hOpened :
      ∀ (w : Wallet) (n : Network),
        opened w now (Config.ofNetwork n) =
          opened w now' (Config.ofNetwork n) := by
    intro w n
    have hMost := (config_ofNetwork n).1
    rw [opened_eq w now hMost, opened_eq w now' hMost]
  unfold compose
  simp only [hOpened, applyScope_now _ now now',
    carry_change_now _ now now']

/- What is composed is ready, with the settings for a network. -/
theorem isReady_of_compose
    {files : Files}
    {order : Order}
    {composed : Composed}
    (h : compose files now order = .ok composed) :
    ∃ n : Network,
      IsReady composed.wallet (Config.ofNetwork n) composed.flow := by
  unfold compose at h
  simp only [bind_eq_ok_iff, mapError_eq_ok_iff, pure, Except.pure,
    Except.ok.injEq] at h
  rcases h with
    ⟨n, _, scope, _, fee, _, rows, _, contents, _, w, _, _, _,
      f, hOpened, f₁, hScope, f₂, hFee, f₃, hRows, rfl⟩
  have hMost := (config_ofNetwork n).1
  rw [opened_eq w now hMost] at hOpened
  cases hOpened
  have hReady := isReady_openedWith w hMost
  exact ⟨n, ((hReady.applyScope hScope).carried hFee).carried hRows⟩

/- A network is read, or fails as expected. -/
theorem failsExpectedly_readNetwork
    (s : String) :
    FailsExpectedly (readNetwork s) := by
  intro e h
  unfold readNetwork at h
  split at h
  · cases h
  · cases h
    exact isExpected_of_code (code_flagError (.network (Text.trim s)))

/- A fee is read, or fails as expected. -/
theorem failsExpectedly_fee
    (s : String) :
    FailsExpectedly (FeeChoice.ofText s) := by
  intro e h
  unfold FeeChoice.ofText at h
  split at h
  · cases h
    exact isExpected_of_code (code_flagError .customFee)
  · cases h
  · split at h
    · cases h
    · rename_i cause _
      cases h
      exact
        isExpected_of_code (code_flagError (.fee (Text.trim s) cause))

/- A file is read, or fails as expected. -/
theorem failsExpectedly_read
    (files : Files)
    (file : String) :
    FailsExpectedly (files.read file) :=
  failsExpectedly_mapError _ (fun _ => Exit.noConfusion)

/- Rows are read, or fail as expected. -/
theorem failsExpectedly_readRows
    (files : Files)
    (file : String) :
    FailsExpectedly (readRows files file) := by
  have hImported :
      ∀ cause : ImportError, IsExpected (.imported cause) :=
    fun cause => isExpected_of_code (code_importError cause)
  unfold readRows
  refine (failsExpectedly_read files file).bind ?_
  intro contents _
  split
  · exact failsExpectedly_mapError _ hImported
  · exact failsExpectedly_mapError _ hImported
  · intro e h
    cases h
    exact isExpected_of_code (code_flagError (.fileKind file))

/- A wallet is read, or fails as expected. -/
theorem failsExpectedly_load
    (file : String)
    (contents : Bytes)
    (n : Network) :
    FailsExpectedly (Wallet.load file contents n) := by
  have hWallet :
      ∀ cause : WalletError, IsExpected (.wallet cause) :=
    fun cause => isExpected_of_code (of_decide_eq_true rfl)
  intro e h
  unfold Wallet.load at h
  dsimp only at h
  split at h
  · cases h
    exact hWallet _
  · split at h
    · cases h
      exact Exit.noConfusion
    · split at h
      · cases h
      · split at h
        · cases h
        · cases h
          exact hWallet _

/- A payment is composed, or fails as expected. -/
theorem failsExpectedly_compose
    (files : Files)
    (now : Time)
    (order : Order) :
    FailsExpectedly (compose files now order) := by
  unfold compose
  refine (failsExpectedly_readNetwork order.network).bind ?_
  intro n _
  refine
    (failsExpectedly_mapError _
      (fun _ => isExpected_of_code (of_decide_eq_true rfl))).bind ?_
  intro scope _
  refine (failsExpectedly_fee order.fee).bind ?_
  intro fee _
  refine (failsExpectedly_readRows files order.file).bind ?_
  intro rows _
  refine (failsExpectedly_read files order.wallet).bind ?_
  intro contents _
  refine (failsExpectedly_load order.wallet contents n).bind ?_
  intro w _
  have hMost := (config_ofNetwork n).1
  dsimp only
  rw [(config_ofNetwork n).2, opened_eq w now hMost]
  have hOpened := isReady_openedWith w hMost
  refine (hOpened.failsExpectedly_applyScope now scope).bind ?_
  intro f hScope
  have hScoped := hOpened.applyScope hScope
  refine
    (hScoped.failsExpectedly_enter now (enter_fee_ne fee)).bind ?_
  intro g hFee
  refine
    ((hScoped.carried hFee).failsExpectedly_enter now
      (enter_load_ne rows)).bind ?_
  intro h _ e hOk
  cases hOk

end Remit.Command
