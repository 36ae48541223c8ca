import Mathlib.Algebra.Ring.Parity
import Remit.Proofs.Scope.Choice

/-
  This file follows a scope through addresses that are toggled
  one after the other. Each toggle turns its own address in or
  out of the selection and leaves the others, so that in the end
  only those count that were toggled an odd number of times.

  Key definitions include:
    * `Scope.selected`
    * `Scope.ofSet`
    * `Scope.toggled`
    * `Scope.IsToggled`

  Key theorems include:
    * `Scope.mem_selected_toggle`
    * `Scope.mem_selected_toggled`
    * `Scope.toggled_eq_ofSet`
    * `Scope.toggled_perm`
    * `Scope.toggle_toggle`
    * `Scope.isToggled_toggled`
-/

namespace Remit

namespace Scope

variable {s t : Scope} {id x : Int64} {ids others : List Int64}

------------------------------------------------------------
-- Selections
------------------------------------------------------------

/- The addresses that a scope selects by themselves. -/
def selected : Scope → IdSet
| auto => .empty
| key _ => .empty
| addresses ids => ids

/- The choice of the addresses in a set, or all funds without any. -/
def ofSet (ids : IdSet) : Scope :=
  if ids.IsEmpty then auto else addresses ids

/- What a set is made into is proper. -/
theorem isProper_ofSet
    (ids : IdSet) :
    (ofSet ids).IsProper := by
  unfold ofSet
  split
  · exact isProper_auto
  · rename_i hSome
    rintro set hSet
    cases hSet
    exact hSome

/- A proper scope is made of what it selects, unless it is a key. -/
theorem eq_ofSet_of_isProper
    (h : s.IsProper)
    (hKey : ∀ key, s ≠ .key key) :
    s = ofSet s.selected := by
  cases s with
  | auto => rfl
  | key key => exact absurd rfl (hKey key)
  | addresses ids => exact (if_neg (h ids rfl)).symm

------------------------------------------------------------
-- One Toggle
------------------------------------------------------------

/- A toggle makes a choice of addresses, or all funds without any. -/
theorem toggle_eq_ofSet
    (s : Scope)
    (id : Int64) :
    s.toggle id = ofSet (s.toggle id).selected := by
  refine eq_ofSet_of_isProper (isProper_toggle s id) (fun key => ?_)
  unfold toggle
  split
  · split
    · split <;> exact nofun
    · exact nofun
  · exact nofun

/- The scope that a set is made into selects that set. -/
private theorem selected_ofSet
    (ids : IdSet) :
    (ofSet ids).selected = ids := by
  unfold ofSet
  split
  · rename_i hEmpty
    refine IdSet.eq_of_mem_iff (fun x => ?_)
    exact iff_of_false nofun (IdSet.isEmpty_iff.mp hEmpty x)
  · rfl

/- A toggle turns its address in or out, and leaves the others. -/
theorem mem_selected_toggle :
    x ∈ (s.toggle id).selected ↔ Xor (x ∈ s.selected) (x = id) := by
  have hFresh :
      x ∈ IdSet.empty.insert id ↔ Xor (x ∈ IdSet.empty) (x = id) := by
    have hNone : x ∉ IdSet.empty := nofun
    rw [IdSet.mem_insert, xor_def]
    tauto
  cases s with
  | auto => exact hFresh
  | key key => exact hFresh
  | addresses ids =>
      by_cases hId : id ∈ ids
      · have hToggle :
            (addresses ids).toggle id = ofSet (ids.erase id) :=
          if_pos hId
        rw [hToggle, selected_ofSet, IdSet.mem_erase, xor_def]
        change _ ↔ (x ∈ ids ∧ _) ∨ (_ ∧ x ∉ ids)
        constructor
        · exact Or.inl
        · rintro (h | ⟨rfl, hNot⟩)
          · exact h
          · exact absurd hId hNot
      · have hToggle :
            (addresses ids).toggle id = addresses (ids.insert id) :=
          if_neg hId
        rw [hToggle, xor_def]
        change x ∈ ids.insert id ↔ (x ∈ ids ∧ _) ∨ (_ ∧ x ∉ ids)
        rw [IdSet.mem_insert]
        constructor
        · rintro (rfl | hMem)
          · exact Or.inr ⟨rfl, hId⟩
          · exact Or.inl ⟨hMem, fun h => hId (h ▸ hMem)⟩
        · rintro (⟨hMem, _⟩ | ⟨rfl, _⟩)
          · exact Or.inr hMem
          · exact Or.inl rfl

------------------------------------------------------------
-- Many Toggles
------------------------------------------------------------

/- The scope once addresses were toggled one after the other. -/
def toggled (s : Scope) (ids : List Int64) : Scope :=
  ids.foldl toggle s

/-
  In the end an address is selected if it was at the start, with
  an odd number of toggles turned around. The induction is on
  the toggles, for any scope to start with.
-/
theorem mem_selected_toggled :
    x ∈ (s.toggled ids).selected ↔
      Xor (x ∈ s.selected) (Odd (ids.count x)) := by
  induction ids generalizing s with
  | nil => simp [toggled, xor_def]
  | cons id ids ih =>
      change x ∈ ((s.toggle id).toggled ids).selected ↔ _
      rw [ih, mem_selected_toggle, List.count_cons]
      by_cases hId : x = id
      · subst hId
        simp only [beq_self_eq_true, if_true, Nat.odd_add_one, xor_def]
        tauto
      · have hOther : (id == x) = false := by
          rw [beq_eq_false_iff_ne]
          exact Ne.symm hId
        simp only [hOther, hId, xor_def]
        simp

/- After some toggle the scope is made of what it selects. -/
theorem toggled_eq_ofSet
    (h : ids ≠ []) :
    s.toggled ids = ofSet (s.toggled ids).selected := by
  rcases List.eq_nil_or_concat' ids with rfl | ⟨before, last, rfl⟩
  · exact absurd rfl h
  · unfold toggled
    rw [List.foldl_concat]
    exact toggle_eq_ofSet _ last

/- The order of the toggles does not matter. -/
theorem toggled_perm
    (h : others.Perm ids) :
    s.toggled others = s.toggled ids := by
  by_cases hIds : ids = []
  · subst hIds
    rw [List.perm_nil.mp h]
  · have hOthers : others ≠ [] := fun hNil =>
      hIds (List.nil_perm.mp (hNil ▸ h))
    have hSelected :
        (s.toggled others).selected = (s.toggled ids).selected := by
      refine IdSet.eq_of_mem_iff (fun x => ?_)
      rw [mem_selected_toggled, mem_selected_toggled, h.count_eq]
    rw [toggled_eq_ofSet hOthers, hSelected, ← toggled_eq_ofSet hIds]

/- Toggling an address twice leads back, unless to a key. -/
theorem toggle_toggle
    (hProper : s.IsProper)
    (hKey : ∀ key, s ≠ .key key) :
    (s.toggle id).toggle id = s := by
  have hSelected :
      ((s.toggle id).toggle id).selected = s.selected := by
    refine IdSet.eq_of_mem_iff (fun x => ?_)
    rw [mem_selected_toggle, mem_selected_toggle, xor_def, xor_def]
    tauto
  calc
    (s.toggle id).toggle id =
        ofSet ((s.toggle id).toggle id).selected := toggle_eq_ofSet _ id
    _ = ofSet s.selected := by rw [hSelected]
    _ = s := (eq_ofSet_of_isProper hProper hKey).symm

------------------------------------------------------------
-- What Toggling Comes To
------------------------------------------------------------

/-
  What toggling addresses comes to: those are selected that were
  at the start, with each turned around that was toggled an odd
  number of times; the scope is the choice of these, or all
  funds without any, and never an empty choice; the order of the
  toggles does not matter; and two of the same address lead back
  to a scope that is not a key.
-/
structure IsToggled
    (s : Scope)
    (ids : List Int64)
    (t : Scope) : Prop where
  mem_iff :
    ∀ id, id ∈ t.selected ↔
      Xor (id ∈ s.selected) (Odd (ids.count id))
  eq_ofSet : t = ofSet t.selected
  proper : t.IsProper
  reordered : ∀ others, others.Perm ids → s.toggled others = t
  doubled :
    ∀ id, (∀ key, s ≠ .key key) → s.toggled [id, id] = s

/- This is what toggling leads to, from any proper scope. -/
theorem isToggled_toggled
    (hProper : s.IsProper)
    (hIds : ids ≠ []) :
    s.IsToggled ids (s.toggled ids) := by
  have hMade := toggled_eq_ofSet (s := s) hIds
  exact
    { mem_iff := fun _ => mem_selected_toggled
      eq_ofSet := hMade
      proper := by
        rw [hMade]
        exact isProper_ofSet _
      reordered := fun _ hPerm => toggled_perm hPerm
      doubled := fun _ hKey => toggle_toggle hProper hKey }

/- Two addresses, one of them with the least identifier. -/
def pair : Scope :=
  addresses (.ofList [4, Int64.minValue])

/- Both are turned out on the way, and another is selected twice. -/
theorem isToggled_toggled_pair :
    pair.IsProper ∧
      pair.IsToggled [4, Int64.minValue, 7, 7, 4, 4, -1]
        (addresses (.ofList [-1])) := by
  have hProper : pair.IsProper := isProper_iff.mpr (by decide)
  have hEnd :
      pair.toggled [4, Int64.minValue, 7, 7, 4, 4, -1] =
        addresses (.ofList [-1]) := by
    decide
  refine ⟨hProper, ?_⟩
  rw [← hEnd]
  exact isToggled_toggled hProper (List.cons_ne_nil _ _)

end Scope

end Remit
