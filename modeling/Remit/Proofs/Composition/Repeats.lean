import Remit.Composition.Outcome

/-
  This file shows which rows are told of as paying an address
  again. The valid rows are looked through in order, and the
  addresses seen so far are kept with the row where each was seen
  first. So a row is told of exactly if an earlier one pays its
  address, along with the earliest such row.

  Key definitions include:
    * `Inputs.PaysTo`
    * `Inputs.StandsFor`
    * `Inputs.TellsOfRepeat`

  Key theorems include:
    * `lookup_eq_some_iff_of_rises`
    * `Inputs.mem_repeated_iff`
    * `Inputs.mem_repeated_validAddresses_iff`
-/

namespace Remit

------------------------------------------------------------
-- Numbered Entries
------------------------------------------------------------

/- The numbers of entries rise along the list. -/
def Rises {α : Type} (entries : List (α × Nat)) : Prop :=
  entries.Pairwise (fun e e' => e.2 < e'.2)

/- Entries that are numbered in order rise. -/
theorem rises_zipIdx
    {α : Type}
    (xs : List α) :
    Rises xs.zipIdx := by
  unfold Rises
  rw [← List.pairwise_map (R := (· < ·)), List.zipIdx_map_snd]
  exact List.pairwise_lt_range' 1

section

variable {before after : List (String × Nat)}
variable {entry : String × Nat}

/- The entries before one of a rising list rise. -/
theorem Rises.initial
    (h : Rises (before ++ entry :: after)) :
    Rises before :=
  (List.pairwise_append.mp h).1

/- The entries before one of a rising list are those below it. -/
theorem Rises.mem_before_iff
    (h : Rises (before ++ entry :: after))
    {e : String × Nat} :
    e ∈ before ↔ e ∈ before ++ entry :: after ∧ e.2 < entry.2 := by
  rcases List.pairwise_append.mp h with ⟨_, hAfter, hCross⟩
  constructor
  · intro he
    exact
      ⟨List.mem_append_left _ he, hCross e he entry List.mem_cons_self⟩
  · rintro ⟨he, hLess⟩
    rcases List.mem_append.mp he with he | he
    · exact he
    · cases he with
      | head => exact absurd hLess (Nat.lt_irrefl _)
      | tail _ he =>
          have hMore := List.rel_of_pairwise_cons hAfter he
          exact absurd hLess (Nat.lt_asymm hMore)

end

/- In a rising list, the first number that is found is the least. -/
theorem lookup_eq_some_iff_of_rises
    {entries : List (String × Nat)}
    {address : String}
    {first : Nat}
    (h : Rises entries) :
    entries.lookup address = some first ↔
      (address, first) ∈ entries ∧
        ∀ row, (address, row) ∈ entries → first ≤ row := by
  rw [List.lookup_eq_some_iff]
  constructor
  · rintro ⟨before, after, rfl, hBefore⟩
    refine ⟨by simp, fun row hRow => ?_⟩
    apply Nat.not_lt.mp
    intro hLess
    have hFound := h.mem_before_iff.mpr ⟨hRow, hLess⟩
    exact absurd (hBefore _ hFound) (by simp)
  · rintro ⟨hFirst, hLeast⟩
    rcases List.append_of_mem hFirst with ⟨before, after, rfl⟩
    refine ⟨before, after, rfl, fun entry hEntry => ?_⟩
    rw [bne_iff_ne]
    rintro rfl
    rcases h.mem_before_iff.mp hEntry with ⟨hMem, hLess⟩
    exact absurd hLess (Nat.not_lt.mpr (hLeast entry.2 hMem))

namespace Inputs

------------------------------------------------------------
-- Valid Rows
------------------------------------------------------------

/- A row is valid and its trimmed address is this one. -/
def PaysTo (i : Inputs) (row : Nat) (address : String) : Prop :=
  ∃ r,
    i.rows[row]? = some r ∧ r.IsValid i.config.network ∧
      Text.trim r.address = address

/- The valid rows are listed by what they pay to. -/
theorem mem_validAddresses_iff
    {i : Inputs}
    {address : String}
    {row : Nat} :
    (address, row) ∈ i.validAddresses ↔ i.PaysTo row address := by
  unfold validAddresses
  rw [List.mem_map]
  constructor
  · rintro ⟨⟨r, row'⟩, hEntry, hEq⟩
    rcases List.mem_filter.mp hEntry with ⟨hRow, hValid⟩
    cases hEq
    exact
      ⟨r, List.mem_zipIdx_iff_getElem?.mp hRow,
        of_decide_eq_true hValid, rfl⟩
  · rintro ⟨r, hRow, hValid, rfl⟩
    refine ⟨(r, row), List.mem_filter.mpr ⟨?_, ?_⟩, rfl⟩
    · exact List.mem_zipIdx_iff_getElem?.mpr hRow
    · exact decide_eq_true hValid

/- The valid rows are listed in order. -/
theorem rises_validAddresses
    (i : Inputs) :
    Rises i.validAddresses := by
  unfold Rises validAddresses
  rw [List.pairwise_map]
  exact (rises_zipIdx i.rows).filter _

------------------------------------------------------------
-- What Was Seen
------------------------------------------------------------

/-
  What was seen stands for the entries that are done if it finds
  the same row for each address. This is what the search keeps
  up, although it sees each address but once.
-/
def StandsFor (seen done : List (String × Nat)) : Prop :=
  ∀ address, seen.lookup address = done.lookup address

/-
  A warning tells of an entry whose address is found in the
  entries before it, and of the row that is found.
-/
def TellsOfRepeat
    (done entries : List (String × Nat))
    (w : Warning) : Prop :=
  ∃ before address row after first,
    entries = before ++ (address, row) :: after ∧
      (done ++ before).lookup address = some first ∧
      w = .duplicateAddress first row

section

variable {seen done entries rest : List (String × Nat)}
variable {address : String}
variable {w : Warning}

/- An entry whose address was seen need not be seen again. -/
theorem StandsFor.skip
    {first : Nat}
    (h : StandsFor seen done)
    (hSeen : seen.lookup address = some first)
    (row : Nat) :
    StandsFor seen (done ++ [(address, row)]) := by
  intro other
  rw [List.lookup_append, ← h other]
  by_cases hSame : other = address
  · rw [hSame, hSeen, Option.some_or]
  · simp [List.lookup_cons, beq_false_of_ne hSame]

/- An entry whose address is new is seen from then on. -/
theorem StandsFor.note
    (h : StandsFor seen done)
    (hNew : seen.lookup address = none)
    (row : Nat) :
    StandsFor ((address, row) :: seen) (done ++ [(address, row)]) := by
  intro other
  rw [List.lookup_append, ← h other]
  by_cases hSame : other = address
  · rw [hSame, hNew, Option.none_or, List.lookup_cons_self,
      List.lookup_cons_self]
  · simp [List.lookup_cons, beq_false_of_ne hSame]

/- The entry told of is the next one, or one of those after it. -/
theorem tellsOfRepeat_cons_iff
    {row : Nat} :
    TellsOfRepeat done ((address, row) :: rest) w ↔
      (∃ first,
          done.lookup address = some first ∧
            w = .duplicateAddress first row) ∨
        TellsOfRepeat (done ++ [(address, row)]) rest w := by
  constructor
  · rintro ⟨before, address', row', after, first, hEq, hFound, rfl⟩
    cases before with
    | nil =>
        cases hEq
        rw [List.append_nil] at hFound
        exact Or.inl ⟨first, hFound, rfl⟩
    | cons entry before =>
        cases hEq
        rw [List.append_cons] at hFound
        exact
          Or.inr ⟨before, address', row', after, first, rfl, hFound, rfl⟩
  · rintro (⟨first, hFound, rfl⟩ | hRest)
    · refine ⟨[], address, row, rest, first, rfl, ?_, rfl⟩
      rw [List.append_nil]
      exact hFound
    · rcases hRest with
        ⟨before, address', row', after, first, rfl, hFound, rfl⟩
      refine
        ⟨(address, row) :: before, address', row', after, first, rfl,
          ?_, rfl⟩
      rw [List.append_cons]
      exact hFound

/- The warnings are those that tell of a repeated entry. -/
theorem mem_repeated_iff
    (h : StandsFor seen done) :
    w ∈ repeated seen entries ↔ TellsOfRepeat done entries w := by
  induction entries generalizing seen done with
  | nil => simp [repeated, TellsOfRepeat]
  | cons entry rest ih =>
      rcases entry with ⟨address, row⟩
      rw [tellsOfRepeat_cons_iff, ← h address]
      unfold repeated
      cases hSeen : seen.lookup address with
      | none =>
          rw [ih (h.note hSeen row)]
          simp
      | some first =>
          rw [List.mem_cons, ih (h.skip hSeen row)]
          simp

/- Each row after the first is told of with the first. -/
example :
    repeated [] [("zs", 1), ("zt", 2), ("zs", 4), ("zs", 7)] =
      [.duplicateAddress 1 4, .duplicateAddress 1 7] := by
  decide

end

------------------------------------------------------------
-- Repeated Addresses
------------------------------------------------------------

/-
  The warnings about the valid rows tell of each that pays what
  an earlier one pays, and of the earliest such row.
-/
theorem mem_repeated_validAddresses_iff
    {i : Inputs}
    {w : Warning} :
    w ∈ repeated [] i.validAddresses ↔
      ∃ first row address,
        w = .duplicateAddress first row ∧ first < row ∧
          i.PaysTo first address ∧ i.PaysTo row address ∧
          ∀ other < first, ¬ i.PaysTo other address := by
  have hRises := rises_validAddresses i
  have hNone : StandsFor [] [] := fun _ => rfl
  rw [mem_repeated_iff hNone]
  constructor
  · rintro ⟨before, address, row, after, first, hEq, hFound, rfl⟩
    rw [hEq] at hRises
    rw [List.nil_append,
      lookup_eq_some_iff_of_rises hRises.initial] at hFound
    rcases hFound with ⟨hFirst, hLeast⟩
    rw [hRises.mem_before_iff, ← hEq, mem_validAddresses_iff] at hFirst
    refine ⟨first, row, address, rfl, hFirst.2, hFirst.1, ?_, ?_⟩
    · rw [← mem_validAddresses_iff, hEq]
      simp
    · intro other hOther hPays
      rw [← mem_validAddresses_iff, hEq] at hPays
      have hBefore :=
        hRises.mem_before_iff.mpr
          ⟨hPays, Nat.lt_trans hOther hFirst.2⟩
      exact Nat.not_lt.mpr (hLeast other hBefore) hOther
  · rintro ⟨first, row, address, rfl, hLess, hFirst, hRow, hEarliest⟩
    rw [← mem_validAddresses_iff] at hFirst hRow
    rcases List.append_of_mem hRow with ⟨before, after, hEq⟩
    rw [hEq] at hRises hFirst
    refine ⟨before, address, row, after, first, hEq, ?_, rfl⟩
    rw [List.nil_append, lookup_eq_some_iff_of_rises hRises.initial]
    refine ⟨hRises.mem_before_iff.mpr ⟨hFirst, hLess⟩, ?_⟩
    intro other hOther
    have hPays := (hRises.mem_before_iff.mp hOther).1
    rw [← hEq, mem_validAddresses_iff] at hPays
    exact Nat.not_lt.mp (fun hLess => hEarliest other hLess hPays)

end Inputs

end Remit
