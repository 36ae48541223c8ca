import Mathlib.Data.List.Sort
import Remit.Proofs.Scope.Resolution

/-
  This file tells sets of identifiers by their members, and when
  identifiers make a choice of addresses.

  Key theorems include:
    * `IdSet.eq_of_mem_iff`
    * `IdSet.isEmpty_iff`
    * `IdSet.ofList_toList`
    * `Scope.ofAddresses_eq_ok_iff`
    * `Scope.ofAddresses_eq_error_iff`
    * `Scope.isProper_of_ofAddresses`
-/

namespace Remit

------------------------------------------------------------
-- Sets
------------------------------------------------------------

namespace IdSet

variable {s t : IdSet}

/- A set is told by its members. -/
theorem eq_of_mem_iff
    (h : ∀ x, x ∈ s ↔ x ∈ t) :
    s = t := by
  have hIrrefl : Std.Irrefl (fun x y : Int64 => x < y) :=
    ⟨fun _ => Int64.lt_irrefl⟩
  have hAntisymm : Std.Antisymm (fun x y : Int64 => x < y) :=
    ⟨fun _ _ hxy hyx => absurd hyx (Int64.lt_asymm hxy)⟩
  have hList : s.toList = t.toList :=
    s.rising.eq_of_mem_iff t.rising (fun x => h x)
  cases s
  cases t
  cases hList
  rfl

/- A set is empty if it has no member. -/
theorem isEmpty_iff :
    s.IsEmpty ↔ ∀ x, x ∉ s :=
  List.eq_nil_iff_forall_not_mem

/- The set of the members of a set is the set. -/
theorem ofList_toList
    (s : IdSet) :
    ofList s.toList = s :=
  eq_of_mem_iff (fun _ => mem_ofList)

/- The set of a list is empty if the list is. -/
theorem isEmpty_ofList_iff
    {xs : List Int64} :
    (ofList xs).IsEmpty ↔ xs = [] := by
  rw [isEmpty_iff, List.eq_nil_iff_forall_not_mem]
  simp only [mem_ofList]

end IdSet

------------------------------------------------------------
-- Choices
------------------------------------------------------------

namespace Scope

variable {s : Scope} {ids : List Int64}

/- Some identifiers make the choice of the addresses in their set. -/
theorem ofAddresses_eq_ok_iff :
    ofAddresses ids = .ok s ↔
      ids ≠ [] ∧ s = addresses (IdSet.ofList ids) := by
  unfold ofAddresses
  split
  · rename_i hEmpty
    exact
      iff_of_false nofun
        (fun h => h.1 (IdSet.isEmpty_ofList_iff.mp hEmpty))
  · rename_i hSome
    have hIds : ids ≠ [] := fun h =>
      hSome (IdSet.isEmpty_ofList_iff.mpr h)
    rw [Except.ok.injEq, eq_comm]
    exact ⟨fun h => ⟨hIds, h⟩, fun h => h.2⟩

/- No identifiers make none. -/
theorem ofAddresses_eq_error_iff
    {e : ScopeError} :
    ofAddresses ids = .error e ↔ ids = [] ∧ e = .emptySelection := by
  unfold ofAddresses
  split
  · rename_i hEmpty
    have hIds := IdSet.isEmpty_ofList_iff.mp hEmpty
    rw [Except.error.injEq, eq_comm]
    exact ⟨fun h => ⟨hIds, h⟩, fun h => h.2⟩
  · rename_i hSome
    exact
      iff_of_false nofun
        (fun h => hSome (IdSet.isEmpty_ofList_iff.mpr h.1))

/- The choice that identifiers make is proper. -/
theorem isProper_of_ofAddresses
    (h : ofAddresses ids = .ok s) :
    s.IsProper := by
  rcases ofAddresses_eq_ok_iff.mp h with ⟨hIds, rfl⟩
  rintro set hSet hEmpty
  cases hSet
  exact hIds (IdSet.isEmpty_ofList_iff.mp hEmpty)

end Scope

end Remit
