import Mathlib.Data.List.Perm.Subperm
import Mathlib.Order.Bounds.Defs
import Remit.Proofs.Wallet.Selection

/-
  This file proves that the engine of a wallet file uses as few
  sources as it can: it takes the largest ones, as many as are
  needed, and no fewer would do, whichever they are. Neither
  what it takes nor why it fails depends on the order of the
  sources in the file.

  Key definitions include:
    * `Wallet.worth`
    * `Wallet.inScope`
    * `Wallet.funded`
    * `Wallet.HasTaken`
    * `Wallet.worths`
    * `Wallet.IsFewest`

  Key theorems include:
    * `Wallet.worth_le_take`
    * `Wallet.hasTaken_choose`
    * `Wallet.selectInputs_perm`
    * `Wallet.selectInputs_fewest`
-/

namespace Remit

namespace Wallet

------------------------------------------------------------
-- The Largest Sources
------------------------------------------------------------

/- What can be spent from sources, exactly. -/
def worth (sources : List Source) : Nat :=
  Amount.total (sources.map Source.spendable)

@[simp]
theorem worth_cons
    (source : Source)
    (sources : List Source) :
    worth (source :: sources) =
      source.spendable.units + worth sources := by
  rw [worth, List.map_cons, Amount.total_cons, worth]

/- Of any two sources the later one is worth no more. -/
def IsFalling (sources : List Source) : Prop :=
  sources.Pairwise (fun a b => b.spendable ≤ a.spendable)

/-
  A source that is worth no less than any of the others is worth
  no less in place of the last of them.
-/
theorem worth_take_succ_le
    {source : Source}
    {sources : List Source}
    (h : ∀ other ∈ sources, other.spendable ≤ source.spendable)
    (n : Nat) :
    worth (sources.take (n + 1)) ≤
      source.spendable.units + worth (sources.take n) := by
  induction sources generalizing n with
  | nil => simp
  | cons other sources ih =>
      have hFirst := Amount.le_iff.mp (h other (by simp))
      have hRest := ih (fun o ho => h o (List.mem_cons_of_mem _ ho))
      cases n with
      | zero => simpa using hFirst
      | succ n =>
          have hMore := hRest n
          simp only [List.take_succ_cons, worth_cons]
          omega

/-
  Of falling sources, the first so many are worth the most. The
  induction is on what is left out.
-/
theorem worth_le_take
    {picked sources : List Source}
    (hFalling : IsFalling sources)
    (hPicked : picked.Sublist sources) :
    worth picked ≤ worth (sources.take picked.length) := by
  induction hPicked with
  | slnil => exact Nat.le_refl _
  | @cons picked sources source _ ih =>
      rcases List.pairwise_cons.mp hFalling with ⟨hFirst, hRest⟩
      have hOthers := ih hRest
      cases hLength : picked.length with
      | zero =>
          rw [List.length_eq_zero_iff.mp hLength]
          exact Nat.zero_le _
      | succ n =>
          rw [hLength] at hOthers
          rw [List.take_succ_cons, worth_cons]
          exact Nat.le_trans hOthers (worth_take_succ_le hFirst n)
  | @cons_cons picked sources source _ ih =>
      have hRest := ih (List.pairwise_cons.mp hFalling).2
      rw [List.length_cons, List.take_succ_cons, worth_cons,
        worth_cons]
      omega

/- More sources are worth no less. -/
theorem worth_take_mono
    (sources : List Source)
    {m n : Nat}
    (h : m ≤ n) :
    worth (sources.take m) ≤ worth (sources.take n) :=
  Amount.total_le_of_sublist
    ((List.take_sublist_take_left h).map Source.spendable)

------------------------------------------------------------
-- Candidates
------------------------------------------------------------

section Candidates

variable {w v : Wallet} {s : Scope}

/- The order in which sources are used is transitive. -/
theorem precedes_trans
    (a b c : Source)
    (hab : precedes a b = true)
    (hbc : precedes b c = true) :
    precedes a c = true := by
  rcases of_decide_eq_true hab with hab | ⟨hab, habId⟩
  · rcases of_decide_eq_true hbc with hbc | ⟨hbc, _⟩
    · exact decide_eq_true (Or.inl (Nat.lt_trans hbc hab))
    · rw [hbc] at hab
      exact decide_eq_true (Or.inl hab)
  · rcases of_decide_eq_true hbc with hbc | ⟨hbc, hbcId⟩
    · rw [← hab] at hbc
      exact decide_eq_true (Or.inl hbc)
    · have hId := Int64.le_trans habId hbcId
      exact decide_eq_true (Or.inr ⟨hab.trans hbc, hId⟩)

/- Of any two sources one may be used first. -/
theorem precedes_total
    (a : Source)
    (b : Source) :
    (precedes a b || precedes b a) = true := by
  rw [Bool.or_eq_true]
  rcases Nat.lt_trichotomy a.spendable.units b.spendable.units with
    hLess | hSame | hMore
  · exact Or.inr (decide_eq_true (Or.inl hLess))
  · have hSame := Amount.ext hSame
    rcases Int64.le_total a.addressId b.addressId with hId | hId
    · exact Or.inl (decide_eq_true (Or.inr ⟨hSame, hId⟩))
    · exact Or.inr (decide_eq_true (Or.inr ⟨hSame.symm, hId⟩))
  · exact Or.inl (decide_eq_true (Or.inl hMore))

/- A source is used before those that are worth no more. -/
theorem le_of_precedes
    {a b : Source}
    (h : precedes a b = true) :
    b.spendable ≤ a.spendable := by
  rcases of_decide_eq_true h with hLess | ⟨hSame, _⟩
  · exact Nat.le_of_lt hLess
  · rw [hSame]
    exact Nat.le_refl _

/- Candidates fall. -/
theorem isFalling_candidates
    (w : Wallet)
    (s : Scope) :
    IsFalling (w.candidates s) := by
  have hOrdered :
      (w.candidates s).Pairwise (fun a b => precedes a b = true) :=
    List.pairwise_mergeSort precedes_trans precedes_total _
  exact hOrdered.imp le_of_precedes

/- The sources that a scope includes. -/
def inScope (w : Wallet) (s : Scope) : List Source :=
  w.sources.filter (fun source => s.Includes source)

/- The sources with funds that a scope includes. -/
def funded (s : Scope) (sources : List Source) : List Source :=
  sources.filter
    (fun source => s.Includes source ∧ ¬ source.spendable.IsZero)

/- Candidates are the sources of a scope with funds. -/
theorem candidates_perm
    (w : Wallet)
    (s : Scope) :
    (w.candidates s).Perm (funded s w.sources) :=
  List.mergeSort_perm _ precedes

/- Candidates are sources in the scope. -/
theorem subperm_candidates
    (w : Wallet)
    (s : Scope) :
    (w.candidates s).Subperm (w.inScope s) := by
  have hFunded : (funded s w.sources).Sublist (w.inScope s) := by
    apply List.monotone_filter_right
    intro source h
    exact decide_eq_true (of_decide_eq_true h).1
  exact (candidates_perm w s).subperm.trans hFunded.subperm

/-
  No sources in the scope are worth more than as many of the
  first candidates: those among them that are worth something
  are candidates.
-/
theorem worth_le_candidates
    {picked : List Source}
    (hPicked : picked.Subperm (w.inScope s)) :
    worth picked ≤ worth ((w.candidates s).take picked.length) := by
  have hIncluded :
      picked.filter (fun source => s.Includes source) = picked := by
    apply List.filter_eq_self.mpr
    intro source hMem
    exact (List.mem_filter.mp (hPicked.subset hMem)).2
  have hSources : picked.Subperm w.sources :=
    hPicked.trans List.filter_sublist.subperm
  have hCandidates : (funded s picked).Subperm (w.candidates s) :=
    (candidates_perm w s).subperm_left.mpr (hSources.filter _)
  rcases hCandidates with ⟨largest, hSame, hLargest⟩
  calc
    worth picked = s.funds picked := by
      rw [Scope.funds, hIncluded, worth]
    _ = worth (funded s picked) := (total_filter s picked).symm
    _ = worth largest := Amount.total_perm (hSame.symm.map _)
    _ ≤ worth ((w.candidates s).take largest.length) :=
      worth_le_take (isFalling_candidates w s) hLargest
    _ ≤ worth ((w.candidates s).take picked.length) := by
      apply worth_take_mono
      rw [hSame.length_eq]
      exact List.length_filter_le _ _

/- What the candidates hold does not depend on the order of a file. -/
theorem spendable_candidates
    (h : v.sources.Perm w.sources)
    (s : Scope) :
    (v.candidates s).map Source.spendable =
      (w.candidates s).map Source.spendable := by
  have hPerm : (v.candidates s).Perm (w.candidates s) :=
    ((candidates_perm v s).trans (h.filter _)).trans
      (candidates_perm w s).symm
  have hFalling :
      ∀ u : Wallet,
        ((u.candidates s).map Source.spendable).Pairwise
          (fun a b => b ≤ a) :=
    fun u => List.pairwise_map.mpr (isFalling_candidates u s)
  refine
    (hPerm.map Source.spendable).eq_of_pairwise ?_
      (hFalling v) (hFalling w)
  intro a b _ _ hab hba
  exact Amount.ext (Nat.le_antisymm hba hab)

end Candidates

------------------------------------------------------------
-- Choosing
------------------------------------------------------------

/-
  So many sources were taken from the front, and added to what
  was there at the start. Before each of them there was less
  than what is required.
-/
structure HasTaken
    (required : Amount)
    (sources : List Source)
    (start chosen : Chosen)
    (n : Nat) : Prop where
  le_length : n ≤ sources.length
  total :
    chosen.total.units =
      min (start.total.units + worth (sources.take n)) Amount.cap
  count : chosen.count = start.count + n
  short :
    ∀ m < n,
      start.total.units + worth (sources.take m) < required.units

variable
  {required : Amount} {source : Source} {sources : List Source}
  {start chosen : Chosen} {n : Nat}

/- At the start nothing was taken. -/
theorem hasTaken_zero :
    HasTaken required sources start start 0 where
  le_length := Nat.zero_le _
  total := (Nat.min_eq_left start.total.units_le).symm
  count := rfl
  short := fun m hm => absurd hm (Nat.not_lt_zero m)

/-
  One more source was taken if there was too little without it.
  What is required is within the supply, so that nothing is too
  little once the total has stopped there.
-/
theorem HasTaken.cons
    (h :
      HasTaken required sources
        ⟨start.total.addCapped source.spendable, start.count + 1⟩
        chosen n)
    (hShort : start.total.units < required.units) :
    HasTaken required (source :: sources) start chosen (n + 1) := by
  have hCap := required.units_le
  have hTotal := h.total
  rw [Amount.units_addCapped] at hTotal
  refine ⟨Nat.succ_le_succ h.le_length, ?_, ?_, ?_⟩
  · rw [List.take_succ_cons, worth_cons]
    omega
  · rw [h.count, Nat.add_assoc, Nat.add_comm 1]
  · intro m hm
    cases m with
    | zero => exact hShort
    | succ m =>
        have hBefore := h.short m (Nat.lt_of_succ_lt_succ hm)
        rw [Amount.units_addCapped] at hBefore
        rw [List.take_succ_cons, worth_cons]
        omega

/- Choosing takes so many sources, for whatever was chosen before. -/
theorem hasTaken_choose
    (required : Amount)
    (start : Chosen)
    (sources : List Source) :
    ∃ n,
      HasTaken required sources start
        (choose required start sources) n := by
  induction sources generalizing start with
  | nil => exact ⟨0, hasTaken_zero⟩
  | cons source sources ih =>
      unfold choose
      split
      · exact ⟨0, hasTaken_zero⟩
      · rename_i hShort
        rw [Amount.le_iff, Nat.not_le] at hShort
        rcases ih
            ⟨start.total.addCapped source.spendable,
              start.count + 1⟩ with
          ⟨n, hTaken⟩
        exact ⟨n + 1, hTaken.cons hShort⟩

/- Only what sources hold matters. -/
theorem choose_congr
    {others : List Source}
    (h :
      sources.map Source.spendable = others.map Source.spendable)
    (required : Amount)
    (chosen : Chosen) :
    choose required chosen sources =
      choose required chosen others := by
  induction sources generalizing others chosen with
  | nil =>
      rw [List.map_nil, eq_comm, List.map_eq_nil_iff] at h
      rw [h]
  | cons source sources ih =>
      cases others with
      | nil => cases h
      | cons other others =>
          rw [List.map_cons, List.map_cons, List.cons.injEq] at h
          unfold choose
          rw [h.1, ih h.2]

/- The order of the sources in a file does not matter. -/
theorem selectInputs_perm
    {w v : Wallet}
    (h : v.sources.Perm w.sources)
    (s : Scope)
    (required : Amount) :
    v.selectInputs s required = w.selectInputs s required := by
  unfold selectInputs
  rw [choose_congr (spendable_candidates h s)]

------------------------------------------------------------
-- The Fewest Sources
------------------------------------------------------------

/- What so many of the sources can be worth, whichever they are. -/
def worths (sources : List Source) (n : Nat) : Set Nat :=
  { total |
    ∃ picked : List Source,
      picked.Subperm sources ∧ picked.length = n ∧
        worth picked = total }

/-
  From sources, the largest are chosen, as many as are needed to
  cover what is required: their worth is the most that so many
  of the sources can be worth, stopped at the supply, and any
  fewer of them are worth too little.
-/
structure IsFewest
    (sources : List Source)
    (required : Amount)
    (chosen : Chosen) : Prop where
  largest :
    ∃ most,
      IsGreatest (worths sources chosen.count) most ∧
        chosen.total.units = min most Amount.cap
  covers : required ≤ chosen.total
  fewest :
    ∀ picked : List Source,
      picked.Subperm sources →
        picked.length < chosen.count →
          worth picked < required.units
  count_le : chosen.count ≤ sources.length

/- The first candidates are worth the most that so many can be. -/
theorem isGreatest_worths
    {w : Wallet}
    {s : Scope}
    {n : Nat}
    (h : n ≤ (w.candidates s).length) :
    IsGreatest (worths (w.inScope s) n)
      (worth ((w.candidates s).take n)) := by
  constructor
  · have hTake : ((w.candidates s).take n).Sublist (w.candidates s) :=
      List.take_sublist n _
    have hSources := hTake.subperm.trans (subperm_candidates w s)
    exact ⟨_, hSources, List.length_take_of_le h, rfl⟩
  · rintro total ⟨picked, hPicked, rfl, rfl⟩
    exact worth_le_candidates hPicked

/- The inputs that are selected are the fewest. -/
theorem isFewest_of_selectInputs
    {w : Wallet}
    {s : Scope}
    {required : Amount}
    {chosen : Chosen}
    (h : w.selectInputs s required = .ok chosen) :
    IsFewest (w.inScope s) required chosen := by
  have hCovers := (selectInputs_iff w s required).2 chosen h
  have hChosen :
      choose required ⟨.zero, 0⟩ (w.candidates s) = chosen := by
    unfold selectInputs at h
    dsimp only at h
    split at h
    · exact Except.ok.inj h
    · cases h
  rcases hasTaken_choose required ⟨.zero, 0⟩ (w.candidates s) with
    ⟨n, hTaken⟩
  rw [hChosen] at hTaken
  have hTotal := hTaken.total
  have hCount := hTaken.count
  rw [Amount.units_zero, Nat.zero_add] at hTotal
  rw [Nat.zero_add] at hCount
  subst hCount
  refine ⟨⟨_, ?_, hTotal⟩, hCovers, ?_, ?_⟩
  · exact isGreatest_worths hTaken.le_length
  · intro picked hPicked hLess
    have hWorth := worth_le_candidates hPicked
    have hShort := hTaken.short _ hLess
    rw [Amount.units_zero, Nat.zero_add] at hShort
    exact Nat.lt_of_le_of_lt hWorth hShort
  · have hLength := (subperm_candidates w s).length_le
    exact Nat.le_trans hTaken.le_length hLength

/- Inputs are found exactly when the sources in the scope suffice. -/
theorem exists_selectInputs_iff
    (w : Wallet)
    (s : Scope)
    (required : Amount) :
    (∃ chosen, w.selectInputs s required = .ok chosen) ↔
      required.units ≤ worth (w.inScope s) := by
  have hCap := required.units_le
  rw [(selectInputs_iff w s required).1, Amount.le_iff,
    Scope.units_spendable]
  change required.units ≤ min (worth (w.inScope s)) Amount.cap ↔ _
  omega

/-
  For a scope that is not given up, the engine builds a draft
  exactly for what it tells can be spent.
-/
theorem reply_build_iff
    {w : Wallet}
    {s : Scope}
    (hKept : (s.resolve w.sources).demoted = false)
    (now : Time)
    (outputs : List Output)
    (fee : Amount) :
    ∃ balance,
      w.reply now (.balance s) = .ok balance ∧
        ((∃ d, w.reply now (.build outputs s fee) = .ok d) ↔
          Amount.total (outputs.map Output.amount) + fee.units ≤
            min balance.spendable.units Amount.cap) := by
  refine ⟨(s.resolve w.sources).balance, rfl, ?_⟩
  have hCap := (s.resolve w.sources).balance.spendable.units_le
  rw [Nat.min_eq_left hCap, Scope.balance_resolve,
    Scope.scope_resolve hKept]
  exact exists_build_iff

/-
  The engine of a wallet file selects inputs exactly when the
  sources in the scope are worth what is required; it selects
  the fewest, the largest of them, and whatever the order of the
  sources in the file is. So, for a scope that stands, it builds
  a draft exactly when the outputs and the fee are within what
  it tells can be spent, and the inputs of the draft are worth
  the outputs, the fee and the change.
-/
theorem selectInputs_fewest
    (w : Wallet)
    (hMany : w.sources.length < 2 ^ 32) :
    (∀ scope required,
      ((∃ chosen, w.selectInputs scope required = .ok chosen) ↔
          required.units ≤ worth (w.inScope scope)) ∧
        (∀ chosen, w.selectInputs scope required = .ok chosen →
          IsFewest (w.inScope scope) required chosen ∧
            chosen.count < 2 ^ 32) ∧
        ∀ v : Wallet, v.sources.Perm w.sources →
          v.selectInputs scope required =
            w.selectInputs scope required) ∧
      ∀ now outputs scope fee,
        (scope.resolve w.sources).demoted = false →
          ∃ balance,
            w.reply now (.balance scope) = .ok balance ∧
              ((∃ d, w.reply now (.build outputs scope fee) = .ok d) ↔
                Amount.total (outputs.map Output.amount) + fee.units ≤
                  min balance.spendable.units Amount.cap) ∧
              ∀ d, w.reply now (.build outputs scope fee) = .ok d →
                d.IsBuiltFor outputs fee := by
  refine ⟨fun s required => ⟨?_, ?_, ?_⟩, ?_⟩
  · exact exists_selectInputs_iff w s required
  · intro chosen hChosen
    have hFewest := isFewest_of_selectInputs hChosen
    have hCount := hFewest.count_le
    have hScope : (w.inScope s).length ≤ w.sources.length :=
      List.length_filter_le _ _
    exact ⟨hFewest, by omega⟩
  · exact fun v hPerm => selectInputs_perm hPerm s required
  · intro now outputs s fee hKept
    rcases reply_build_iff hKept now outputs fee with
      ⟨balance, hBalance, hBuilds⟩
    exact
      ⟨balance, hBalance, hBuilds, fun _ hd => isBuiltFor_of_build hd⟩

/- What an address of a key holds. -/
def held (key : Int64) (address : Int64) (units : Nat) : Source where
  keyId := key
  addressId := address
  address := ""
  spendable := .capped units
  pending := .zero

/- A wallet with two keys; one has an empty address and two alike. -/
def purse : Wallet where
  network := none
  bounds := .fallback
  sources :=
    [held 1 11 3, held 2 21 100, held 1 12 5, held 1 13 3, held 1 14 0]
  expiryHeight := 0
  asOf := none

/- The key can pay seven units, and takes the fewest sources. -/
theorem selectInputs_fewest_purse :
    purse.sources.length < 2 ^ 32 ∧
      (∃ chosen,
        purse.selectInputs (.key 1) (.capped 7) = .ok chosen ∧
          IsFewest (purse.inScope (.key 1)) (.capped 7) chosen) ∧
      ∃ d,
        purse.reply Time.epoch (.build [] (.key 1) (.capped 7)) =
            .ok d ∧
          d.IsBuiltFor [] (.capped 7) := by
  have hMany : purse.sources.length < 2 ^ 32 := by decide
  rcases selectInputs_fewest purse hMany with ⟨hSelects, hBuilds⟩
  rcases hSelects (.key 1) (.capped 7) with ⟨hFound, hFewest, _⟩
  rcases hFound.mpr (by decide) with ⟨chosen, hChosen⟩
  rcases hBuilds Time.epoch [] (.key 1) (.capped 7) (by decide) with
    ⟨balance, hBalance, hBuilt, hFor⟩
  cases hBalance
  rcases hBuilt.mpr (by decide) with ⟨d, hd⟩
  refine ⟨hMany, ⟨chosen, hChosen, ?_⟩, d, hd, hFor d hd⟩
  exact (hFewest chosen hChosen).1

end Wallet

end Remit
