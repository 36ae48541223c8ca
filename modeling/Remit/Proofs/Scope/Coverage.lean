import Remit.Proofs.Scope.Resolution

/-
  This file states what a scope comes to among the sources of a
  wallet. It is given up for all funds exactly if it names
  something that no source has. The order of the sources does
  not matter, what a scope was resolved to is resolved to
  itself, and no scope comes to more than all funds do.

  Key definitions include:
    * `Scope.NamesMissing`
    * `Scope.IsCovered`

  Key theorems include:
    * `Scope.stands_iff`
    * `Scope.resolve_perm`
    * `Scope.resolve_resolve`
    * `Scope.balance_le_auto`
    * `Scope.isCovered_resolve`
-/

namespace Remit

namespace Scope

variable {s t : Scope} {sources others : List Source}

------------------------------------------------------------
-- Missing Names
------------------------------------------------------------

/-
  A scope names a key or an address that no source has, or it is
  a choice of addresses that names none.
-/
inductive NamesMissing (sources : List Source) : Scope → Prop where
| key
    {id : Int64}
    (hMissing : ∀ source ∈ sources, source.keyId ≠ id) :
    NamesMissing sources (.key id)
| nothing
    {ids : IdSet}
    (hEmpty : ∀ id, id ∉ ids) :
    NamesMissing sources (.addresses ids)
| address
    {ids : IdSet}
    {id : Int64}
    (hId : id ∈ ids)
    (hMissing : ∀ source ∈ sources, source.addressId ≠ id) :
    NamesMissing sources (.addresses ids)

/- A scope stands exactly if it names nothing that is missing. -/
theorem stands_iff :
    s.Stands sources ↔ ¬ s.NamesMissing sources := by
  constructor
  · intro hStands hMissing
    cases hMissing with
    | key hMissing =>
        rcases hStands with ⟨source, hMem, hKey⟩
        exact hMissing source hMem hKey
    | nothing hEmpty =>
        exact hStands.1 (List.eq_nil_iff_forall_not_mem.mpr hEmpty)
    | address hId hMissing =>
        rcases hStands.2 _ hId with ⟨source, hMem, hAddress⟩
        exact hMissing source hMem hAddress
  · intro hNot
    cases s with
    | auto => trivial
    | key id =>
        by_contra hStands
        apply hNot
        refine .key (fun source hMem hKey => ?_)
        exact hStands ⟨source, hMem, hKey⟩
    | addresses ids =>
        refine ⟨fun hEmpty => hNot (.nothing ?_), fun id hId => ?_⟩
        · exact List.eq_nil_iff_forall_not_mem.mp hEmpty
        · by_contra hNone
          apply hNot
          refine .address hId (fun source hMem hAddress => ?_)
          exact hNone ⟨source, hMem, hAddress⟩

/- A scope is given up exactly if it names something missing. -/
theorem demoted_resolve_iff :
    (s.resolve sources).demoted = true ↔ s.NamesMissing sources := by
  rw [← not_iff_not, ← stands_iff]
  unfold resolve
  split
  · rename_i hStands
    exact iff_of_true nofun hStands
  · rename_i hNot
    exact iff_of_false (not_not.mpr rfl) hNot

/- Then all funds take its place. -/
theorem scope_resolve_of_namesMissing
    (h : s.NamesMissing sources) :
    (s.resolve sources).scope = auto := by
  have hNot : ¬ s.Stands sources := fun hStands =>
    stands_iff.mp hStands h
  unfold resolve
  rw [if_neg hNot]

------------------------------------------------------------
-- Reordering
------------------------------------------------------------

/- The exact sum does not depend on the order of the sources. -/
theorem total_of_perm
    {part : Source → Amount}
    (h : others.Perm sources) :
    s.total part others = s.total part sources :=
  Amount.total_perm ((h.filter _).map part)

/- Neither does the balance. -/
theorem balance_perm
    (h : others.Perm sources) :
    s.balance others = s.balance sources := by
  have hSpendable :
      (s.balance others).spendable =
        (s.balance sources).spendable := by
    apply Amount.ext
    rw [units_spendable, units_spendable, total_of_perm h]
  have hPending :
      (s.balance others).pending = (s.balance sources).pending := by
    apply Amount.ext
    rw [units_pending, units_pending, total_of_perm h]
  change Balance.mk _ _ = Balance.mk _ _
  rw [Balance.mk.injEq]
  exact ⟨hSpendable, hPending⟩

/- Neither does it matter to whether a scope stands. -/
theorem stands_perm
    (h : others.Perm sources) :
    s.Stands others ↔ s.Stands sources := by
  unfold Stands
  simp only [h.mem_iff]

/- So a scope is resolved alike among sources in any order. -/
theorem resolve_perm
    (h : others.Perm sources) :
    s.resolve others = s.resolve sources := by
  unfold resolve
  simp only [stands_perm h, balance_perm h]

------------------------------------------------------------
-- Resolving Again
------------------------------------------------------------

/- What a scope was resolved to is resolved to itself. -/
theorem resolve_resolve
    (s : Scope)
    (sources : List Source) :
    (s.resolve sources).scope.resolve sources =
      ⟨(s.resolve sources).scope, (s.resolve sources).balance,
       false⟩ := by
  rw [resolve_of_stands (stands_resolve s sources), balance_resolve]

------------------------------------------------------------
-- All Funds
------------------------------------------------------------

/- A scope that includes more sources comes to no less. -/
theorem total_mono
    (part : Source → Amount)
    (sources : List Source)
    (h : ∀ source, s.Includes source → t.Includes source) :
    s.total part sources ≤ t.total part sources := by
  have hFilter :
      (sources.filter (fun source => s.Includes source)).Sublist
        (sources.filter (fun source => t.Includes source)) :=
    List.monotone_filter_right sources
      (fun source hs =>
        decide_eq_true (h source (of_decide_eq_true hs)))
  exact Amount.total_le_of_sublist (hFilter.map part)

/- No scope comes to more than all funds. -/
theorem balance_le_auto
    (s : Scope)
    (sources : List Source) :
    (s.balance sources).spendable ≤
        (auto.balance sources).spendable ∧
      (s.balance sources).pending ≤
        (auto.balance sources).pending := by
  have hTotal :
      ∀ part, s.total part sources ≤ auto.total part sources :=
    fun part => total_mono part sources (fun _ _ => trivial)
  rw [Amount.le_iff, Amount.le_iff, units_spendable,
    units_spendable, units_pending, units_pending]
  exact
    ⟨min_le_min_right _ (hTotal Source.spendable),
      min_le_min_right _ (hTotal Source.pending)⟩

------------------------------------------------------------
-- What a Scope Comes To
------------------------------------------------------------

/-
  What a scope comes to among sources: it is given up exactly if
  it names something missing, and kept otherwise; the resulting
  scope includes every source if it is all funds, and otherwise
  those of its key or at its addresses; the balance is the exact
  sum of what these sources hold, or the supply if that is less;
  the order of the sources does not matter; nothing is left to
  resolve; and all funds come to no less.
-/
structure IsCovered
    (s : Scope)
    (sources : List Source)
    (r : Resolved) : Prop where
  demoted_iff : r.demoted = true ↔ s.NamesMissing sources
  given_up : s.NamesMissing sources → r.scope = auto
  kept : ¬ s.NamesMissing sources → r.scope = s
  includes_iff :
    ∀ source, r.scope.Includes source ↔
      r.scope = auto ∨
        r.scope = key source.keyId ∨
        ∃ ids, r.scope = addresses ids ∧ source.addressId ∈ ids
  spendable :
    r.balance.spendable.units =
      min (r.scope.total Source.spendable sources) Amount.cap
  pending :
    r.balance.pending.units =
      min (r.scope.total Source.pending sources) Amount.cap
  reordered : ∀ others, others.Perm sources → s.resolve others = r
  again : r.scope.resolve sources = ⟨r.scope, r.balance, false⟩
  spendable_le :
    r.balance.spendable ≤ (auto.resolve sources).balance.spendable
  pending_le :
    r.balance.pending ≤ (auto.resolve sources).balance.pending

/- This is what a scope is resolved to. -/
theorem isCovered_resolve
    (s : Scope)
    (sources : List Source) :
    s.IsCovered sources (s.resolve sources) := by
  have hBalance := balance_resolve s sources
  have hAuto : (auto.resolve sources).balance = auto.balance sources :=
    rfl
  have hLess := balance_le_auto (s.resolve sources).scope sources
  exact
    { demoted_iff := demoted_resolve_iff
      given_up := scope_resolve_of_namesMissing
      kept := fun hNot => by
        rw [resolve_of_stands (stands_iff.mpr hNot)]
      includes_iff := fun _ => Scope.includes_iff
      spendable := by
        rw [hBalance]
        exact units_spendable _ sources
      pending := by
        rw [hBalance]
        exact units_pending _ sources
      reordered := fun _ hPerm => resolve_perm hPerm
      again := resolve_resolve s sources
      spendable_le := by
        rw [hBalance, hAuto]
        exact hLess.1
      pending_le := by
        rw [hBalance, hAuto]
        exact hLess.2 }

end Scope

end Remit
