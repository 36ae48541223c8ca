/-
  This file defines finite sets of identifiers as rising lists,
  so that equal sets are equal values.

  Key definitions include:
    * `IdSet`
    * `IdSet.insert`
    * `IdSet.erase`
    * `IdSet.ofList`
-/

namespace Remit

/- A set of identifiers, listed from the least to the greatest. -/
structure IdSet where
  toList : List Int64
  rising : toList.Pairwise (· < ·)
deriving DecidableEq, Repr

namespace IdSet

/- Put an identifier at its place in a rising list. -/
def insertList (x : Int64) : List Int64 → List Int64
| [] => [x]
| y :: ys =>
    if x < y then
      x :: y :: ys
    else if x = y then
      y :: ys
    else
      y :: insertList x ys

/- The members after an insertion. -/
theorem mem_insertList
    {x y : Int64}
    {ys : List Int64} :
    y ∈ insertList x ys ↔ y = x ∨ y ∈ ys := by
  induction ys with
  | nil => simp [insertList]
  | cons z zs ih =>
      unfold insertList
      split
      · simp
      · split
        · rename_i h
          subst h
          simp
        · simp [ih, or_left_comm]

/- A rising list stays rising. -/
theorem rising_insertList
    {x : Int64}
    {ys : List Int64}
    (h : ys.Pairwise (· < ·)) :
    (insertList x ys).Pairwise (· < ·) := by
  induction ys with
  | nil => simp [insertList]
  | cons y ys ih =>
      rw [List.pairwise_cons] at h
      unfold insertList
      split
      · rename_i hxy
        rw [List.pairwise_cons, List.pairwise_cons]
        refine ⟨?_, h⟩
        intro z hz
        rcases List.mem_cons.mp hz with hz | hz
        · exact hz ▸ hxy
        · exact Int64.lt_trans hxy (h.1 z hz)
      · rename_i hxy
        split
        · exact List.pairwise_cons.mpr h
        · rename_i hne
          rw [List.pairwise_cons]
          refine ⟨?_, ih h.2⟩
          intro z hz
          rcases mem_insertList.mp hz with hz | hz
          · subst hz
            exact Int64.lt_of_le_of_ne (Int64.not_lt.mp hxy) (Ne.symm hne)
          · exact h.1 z hz

/- The set without members. -/
def empty : IdSet :=
  ⟨[], List.Pairwise.nil⟩

/- The set with one more member. -/
def insert (s : IdSet) (x : Int64) : IdSet :=
  ⟨insertList x s.toList, rising_insertList s.rising⟩

/- The set without a member. -/
def erase (s : IdSet) (x : Int64) : IdSet :=
  ⟨s.toList.filter (· ≠ x), s.rising.filter _⟩

/- The set of the identifiers in a list. -/
def ofList (xs : List Int64) : IdSet :=
  xs.foldr (fun x s => s.insert x) empty

instance : Membership Int64 IdSet where
  mem s x := x ∈ s.toList

instance (s : IdSet) (x : Int64) : Decidable (x ∈ s) :=
  inferInstanceAs (Decidable (x ∈ s.toList))

/- A set is empty when it has no member. -/
def IsEmpty (s : IdSet) : Prop :=
  s.toList = []

instance (s : IdSet) : Decidable s.IsEmpty := by
  unfold IsEmpty
  infer_instance

/- The members after an insertion. -/
theorem mem_insert
    {s : IdSet}
    {x y : Int64} :
    y ∈ s.insert x ↔ y = x ∨ y ∈ s :=
  mem_insertList

/- The members after an erasure. -/
theorem mem_erase
    {s : IdSet}
    {x y : Int64} :
    y ∈ s.erase x ↔ y ∈ s ∧ y ≠ x := by
  change y ∈ s.toList.filter (· ≠ x) ↔ _
  simp only [List.mem_filter, decide_eq_true_eq]
  exact Iff.rfl

/- The members of the set of a list are those of the list. -/
theorem mem_ofList
    {xs : List Int64}
    {x : Int64} :
    x ∈ ofList xs ↔ x ∈ xs := by
  induction xs with
  | nil =>
      constructor <;> intro h <;> cases h
  | cons y ys ih =>
      change x ∈ (ofList ys).insert y ↔ _
      rw [mem_insert, ih, List.mem_cons]

end IdSet

end Remit
