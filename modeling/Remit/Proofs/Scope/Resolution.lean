import Remit.Proofs.Amount.Sum
import Remit.Scope.Basic

/-
  This file tells what becomes of a scope once the sources are
  known. A scope that stands is kept, and what it is resolved to
  always stands; its balance is the exact sum of what the
  sources in it hold, or the supply if that is less. No choice
  of addresses is ever left empty.

  Key definitions include:
    * `Scope.IsProper`
    * `Scope.total`

  Key theorems include:
    * `Scope.resolve_of_stands`
    * `Scope.stands_resolve`
    * `Scope.isProper_toggle`
    * `Scope.units_spendable`
    * `Scope.units_pending`
-/

namespace Remit

------------------------------------------------------------
-- Resolution
------------------------------------------------------------

namespace Scope

variable {s : Scope} {sources : List Source}

/- A scope that stands is kept. -/
theorem resolve_of_stands
    (h : s.Stands sources) :
    s.resolve sources = ⟨s, s.balance sources, false⟩ := by
  unfold resolve
  rw [if_pos h]

/- Whatever a scope is resolved to stands. -/
theorem stands_resolve
    (s : Scope)
    (sources : List Source) :
    (s.resolve sources).scope.Stands sources := by
  unfold resolve
  split
  · assumption
  · trivial

/- A scope that is not given up is what it is resolved to. -/
theorem scope_resolve
    (h : (s.resolve sources).demoted = false) :
    (s.resolve sources).scope = s := by
  unfold resolve at h ⊢
  split
  · rfl
  · rename_i hNot
    rw [if_neg hNot] at h
    cases h

/- The balance of a scope that was resolved is that of the scope. -/
theorem balance_resolve
    (s : Scope)
    (sources : List Source) :
    (s.resolve sources).balance =
      (s.resolve sources).scope.balance sources := by
  unfold resolve
  split <;> rfl

------------------------------------------------------------
-- Proper Scopes
------------------------------------------------------------

/- A choice of addresses has at least one. -/
def IsProper (s : Scope) : Prop :=
  ∀ ids, s = addresses ids → ¬ ids.IsEmpty

/- All funds are a proper choice. -/
theorem isProper_auto :
    auto.IsProper :=
  fun _ => Scope.noConfusion

/- A scope is proper unless it is the empty choice of addresses. -/
theorem isProper_iff :
    s.IsProper ↔ s ≠ addresses IdSet.empty := by
  constructor
  · intro h hEq
    exact h IdSet.empty hEq rfl
  · rintro hNe ⟨ids, hRising⟩ rfl hEmpty
    change ids = [] at hEmpty
    subst hEmpty
    exact hNe rfl

/- What stands is proper. -/
theorem isProper_of_stands
    (h : s.Stands sources) :
    s.IsProper := by
  rintro ids rfl
  exact h.1

/- A set with a member is not empty. -/
private theorem not_isEmpty_insert
    (ids : IdSet)
    (id : Int64) :
    ¬ (ids.insert id).IsEmpty := by
  intro hEmpty
  have hMem : id ∈ ids.insert id := IdSet.mem_insert.mpr (Or.inl rfl)
  change id ∈ (ids.insert id).toList at hMem
  rw [hEmpty] at hMem
  cases hMem

/- Selecting and dropping addresses leaves a proper choice. -/
theorem isProper_toggle
    (s : Scope)
    (id : Int64) :
    (s.toggle id).IsProper := by
  unfold toggle
  split
  · split
    · split
      · exact isProper_auto
      · rename_i hSome
        rintro ids hEq
        cases hEq
        exact hSome
    · rintro ids hEq
      cases hEq
      exact not_isEmpty_insert _ id
  · rintro ids hEq
    cases hEq
    exact not_isEmpty_insert _ id

------------------------------------------------------------
-- Balances
------------------------------------------------------------

/- The exact sum of one part of the sources in a scope. -/
def total
    (s : Scope)
    (part : Source → Amount)
    (sources : List Source) : Nat :=
  Amount.total
    ((sources.filter (fun source => s.Includes source)).map part)

/-
  Balances add up each part by itself. The induction is on the
  sources, for a balance to start with.
-/
private theorem part_foldl
    (part : Source → Amount)
    (side : Balance → Amount)
    (hAdd : ∀ b source,
      side (b.addSource source) = (side b).addCapped (part source))
    (sources : List Source)
    (b : Balance) :
    side (sources.foldl Balance.addSource b) =
      (sources.map part).foldl Amount.addCapped (side b) := by
  induction sources generalizing b with
  | nil => rfl
  | cons source sources ih =>
      rw [List.foldl_cons, ih, hAdd]
      rfl

/- What can be spent is the exact sum, or the supply if less. -/
theorem units_spendable
    (s : Scope)
    (sources : List Source) :
    (s.balance sources).spendable.units =
      min (s.total Source.spendable sources) Amount.cap := by
  unfold balance Balance.ofSources
  rw [part_foldl Source.spendable Balance.spendable (fun _ _ => rfl)]
  exact Amount.units_sumCapped _

/- What waits is the exact sum, or the supply if less. -/
theorem units_pending
    (s : Scope)
    (sources : List Source) :
    (s.balance sources).pending.units =
      min (s.total Source.pending sources) Amount.cap := by
  unfold balance Balance.ofSources
  rw [part_foldl Source.pending Balance.pending (fun _ _ => rfl)]
  exact Amount.units_sumCapped _

end Scope

end Remit
