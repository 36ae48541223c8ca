import Remit.Proofs.Import.Reading

/-
  This file tells which row is named when a CSV file is refused
  for one of its records. It is the line of the record, with the
  headers on the first one, if a cell is no text or a formula.
  For units that do not count it is the line before: there the
  number of the record is named.

  Key definitions include:
    * `ImportError.row?`
    * `Import.IsFault`
    * `Import.IsFirstUnreadable`
    * `Import.AreTooMany`

  Key theorems include:
    * `Import.readRecord_eq_error_iff`
    * `Import.readRecords_eq_error_iff`
    * `Import.ofCsv_locates_faults`
-/

namespace Remit

/- The row that a failure names, if it is about a row. -/
def ImportError.row? : ImportError → Option Nat
| recordUnreadable row => some row
| formula row _ => some row
| badUnits row _ => some row
| _ => none

namespace Import

variable {headers cells : List String} {columns : Columns}
variable {record : Csv.Record} {records : List Csv.Record}
variable {number k : Nat} {e : ImportError}

------------------------------------------------------------
-- Faults of Records
------------------------------------------------------------

/- The cells of a record are texts, and none is a formula. -/
def HasPlainCells (record : Csv.Record) : Prop :=
  ∃ cells : List String, record = cells.map Utf8.encode ∧
    ∀ cell ∈ cells, ¬ IsFormula cell

/-
  What is wrong with a record and how it is reported: a cell is
  no text, or the first formula stands in some column, or units
  do not count within the supply where they are needed.
-/
inductive IsFault
    (headers : List String)
    (number : Nat)
    (record : Csv.Record) : ImportError → Prop
| unspelled
    (hNone : ∀ cells : List String, record ≠ cells.map Utf8.encode) :
    IsFault headers number record (.recordUnreadable (number + 1))
| formula {cells : List String} {i : Nat}
    (hCells : record = cells.map Utf8.encode)
    (hFirst : IsFirstAt IsFormula cells i) :
    IsFault headers number record
      (.formula (number + 1) (columnName headers i))
| units {cells : List String} {units : String}
    (hCells : record = cells.map Utf8.encode)
    (hPlain : ∀ cell ∈ cells, ¬ IsFormula cell)
    (hNone : ∀ text, ¬ Says headers cells .amount text)
    (hUnits : Says headers cells .units units)
    (hCount :
      ¬ ∃ n, Numeral.IsCount units.toList n ∧ n ≤ Amount.cap) :
    IsFault headers number record (.badUnits number units)

/- Cells are refused for the first formula. -/
theorem checkFormulas_eq_error_iff :
    checkFormulas headers number cells = .error e ↔
      ∃ i, IsFirstAt IsFormula cells i ∧
        e = .formula number (columnName headers i) := by
  simp only [← findIdx?_eq_some_iff_isFirstAt
    (p := fun cell => IsFormula cell) (fun _ => decide_eq_true_iff)]
  unfold checkFormulas
  cases cells.findIdx? (fun cell => IsFormula cell) with
  | none => exact iff_of_false nofun nofun
  | some i =>
      simp only [Except.error.injEq, Option.some.injEq,
        exists_eq_left', eq_comm]

/- A record is refused for what is wrong with it. -/
theorem readRecord_eq_error_iff
    (hColumns : IsPlacedBy columns headers) :
    readRecord headers columns number record = .error e ↔
      IsFault headers number record e := by
  unfold readRecord
  cases hText : Csv.text? record with
  | none =>
      have hNone :
          ∀ cells : List String, record ≠ cells.map Utf8.encode := by
        intro cells hCells
        rw [Csv.text?_eq_some_iff.mpr hCells] at hText
        cases hText
      constructor
      · intro h
        cases h
        exact .unspelled hNone
      · intro h
        cases h with
        | unspelled => rfl
        | formula hCells => exact absurd hCells (hNone _)
        | units hCells => exact absurd hCells (hNone _)
  | some cells =>
      have hSame :
          ∀ others : List String, record = others.map Utf8.encode →
            others = cells := by
        intro others hOthers
        rw [Csv.text?_eq_some_iff.mpr hOthers] at hText
        exact Option.some.inj hText
      have hCells := Csv.text?_eq_some_iff.mp hText
      simp only [bind_eq_error_iff, checkFormulas_eq_error_iff,
        amountText_eq_error_iff hColumns]
      constructor
      · intro h
        rcases h with ⟨i, hFirst, rfl⟩ | ⟨_, hCheck, h⟩
        · exact .formula hCells hFirst
        · have hPlain := checkFormulas_eq_ok_iff.mp hCheck
          rcases h with ⟨units, hNone, hUnits, hCount, rfl⟩ | ⟨_, _, h⟩
          · exact .units hCells hPlain hNone hUnits hCount
          · cases h
      · intro h
        cases h with
        | unspelled hNone => exact absurd hCells (hNone _)
        | formula hOthers hFirst =>
            rw [hSame _ hOthers] at hFirst
            exact Or.inl ⟨_, hFirst, rfl⟩
        | units hOthers hPlain hNone hUnits hCount =>
            rw [hSame _ hOthers] at hPlain hNone hUnits
            exact
              Or.inr ⟨(), checkFormulas_eq_ok_iff.mpr hPlain,
                Or.inl ⟨_, hNone, hUnits, hCount, rfl⟩⟩

/- Something is wrong with just the records that cannot be read. -/
theorem exists_isFault_iff
    (hColumns : IsPlacedBy columns headers)
    (number : Nat) :
    (∃ e, IsFault headers number record e) ↔
      ¬ IsReadable headers record := by
  simp only [← readRecord_eq_error_iff hColumns]
  rw [← not_exists_ok_iff, exists_readRecord_iff hColumns]

/- The row that is named tells whether the cells were plain texts. -/
theorem IsFault.row?_eq
    (h : IsFault headers number record e) :
    (¬ HasPlainCells record → e.row? = some (number + 1)) ∧
      (HasPlainCells record → e.row? = some number) := by
  cases h with
  | unspelled hNone =>
      refine ⟨fun _ => rfl, fun h => ?_⟩
      rcases h with ⟨_, hCells, _⟩
      exact absurd hCells (hNone _)
  | formula hCells hFirst =>
      refine ⟨fun _ => rfl, fun h => ?_⟩
      rcases h with ⟨others, hOthers, hPlain⟩
      have hSame := Csv.text?_eq_some_iff.mpr hCells
      rw [Csv.text?_eq_some_iff.mpr hOthers] at hSame
      cases hSame
      rcases hFirst.1 with ⟨cell, hCell, hFormula⟩
      exact absurd hFormula (hPlain _ (List.mem_of_getElem? hCell))
  | units hCells hPlain =>
      exact ⟨fun h => absurd ⟨_, hCells, hPlain⟩ h, fun _ => rfl⟩

------------------------------------------------------------
-- The First Fault
------------------------------------------------------------

/-
  A record is the first of several that cannot be read. It has a
  place, counted from one, that is not past the most.
-/
structure IsFirstUnreadable
    (headers : List String)
    (records : List Csv.Record)
    (k : Nat)
    (record : Csv.Record) : Prop where
  few : k ≤ 1000
  unreadable : ¬ IsReadable headers record
  placed :
    ∃ before after,
      records = before ++ record :: after ∧
        before.length + 1 = k ∧
        ∀ other ∈ before, IsReadable headers other

/- All records can be read up to the most, but there are more. -/
structure AreTooMany
    (headers : List String)
    (records : List Csv.Record) : Prop where
  many : 1000 < records.length
  readable : ∀ record ∈ records.take 1000, IsReadable headers record

/-
  Records are refused at the first that cannot be read or has
  too great a number.
-/
private theorem exists_split_iff
    (hColumns : IsPlacedBy columns headers) :
    readRecords headers columns records = .error e ↔
      ∃ before record after,
        records = before ++ record :: after ∧
          (before.length ≤ mostRows ∧
            ∀ other ∈ before, IsReadable headers other) ∧
          (if mostRows < before.length + 1 then
              Except.error (.tooManyRows mostRows)
            else
              readRecord headers columns (before.length + 1) record) =
            .error e := by
  simp only [← exists_readRecords_iff hColumns]
  unfold readRecords
  rw [mapM_eq_error_iff]
  simp only [exists_mapM_iff]
  constructor
  · intro h
    rcases h with ⟨entries, entry, rest, hSplit, hEntries, hEntry⟩
    rcases List.zipIdx_eq_append_iff.mp hSplit with
      ⟨before, others, rfl, rfl, hOthers⟩
    rcases List.zipIdx_eq_cons_iff.mp hOthers.symm with
      ⟨record, after, rfl, rfl, rfl⟩
    rw [Nat.add_comm] at hEntry
    exact ⟨before, record, after, rfl, hEntries, hEntry⟩
  · intro h
    rcases h with ⟨before, record, after, rfl, hEntries, hEntry⟩
    rw [Nat.add_comm] at hEntry
    exact
      ⟨_, (record, 1 + before.length), _,
        by rw [List.zipIdx_append, List.zipIdx_cons], hEntries,
        hEntry⟩

/-
  Records are refused for what is wrong with the first that
  cannot be read, or else for being too many.
-/
theorem readRecords_eq_error_iff
    (hColumns : IsPlacedBy columns headers) :
    readRecords headers columns records = .error e ↔
      (∃ k record, IsFirstUnreadable headers records k record ∧
        IsFault headers k record e) ∨
      (AreTooMany headers records ∧ e = .tooManyRows 1000) := by
  rw [exists_split_iff hColumns]
  have hMost : mostRows = 1000 := rfl
  constructor
  · intro h
    rcases h with ⟨before, record, after, rfl, hBefore, hEntry⟩
    rcases hBefore with ⟨hFew, hReadable⟩
    split at hEntry
    · right
      cases hEntry
      have hLength : before.length = 1000 := by omega
      refine ⟨⟨?_, ?_⟩, rfl⟩
      · rw [List.length_append, List.length_cons]
        omega
      · rw [← hLength, List.take_left]
        exact hReadable
    · left
      refine ⟨before.length + 1, record, ⟨by omega, ?_, ?_⟩, ?_⟩
      · intro hRecord
        rcases (exists_readRecord_iff hColumns _).mpr hRecord with
          ⟨row, hRow⟩
        rw [hRow] at hEntry
        cases hEntry
      · exact ⟨before, after, rfl, rfl, hReadable⟩
      · exact (readRecord_eq_error_iff hColumns).mp hEntry
  · intro h
    rcases h with ⟨k, record, hFirst, hFault⟩ | ⟨hMany, rfl⟩
    · rcases hFirst.placed with ⟨before, after, hSplit, rfl, hReadable⟩
      have hFew := hFirst.few
      refine ⟨before, record, after, hSplit, ⟨by omega, hReadable⟩, ?_⟩
      rw [if_neg (by omega)]
      exact (readRecord_eq_error_iff hColumns).mpr hFault
    · have hLong := hMany.many
      refine
        ⟨records.take 1000, records[1000], records.drop 1001, ?_,
          ⟨?_, hMany.readable⟩, ?_⟩
      · rw [List.cons_getElem_drop_succ, List.take_append_drop]
      · rw [List.length_take]
        omega
      · rw [if_pos (by rw [List.length_take]; omega), hMost]

------------------------------------------------------------
-- Files
------------------------------------------------------------

/-
  A file that rows can be read from by its headers is refused
  for what is wrong with the first record that cannot be read,
  or for too many records. The row that is named for a record
  counts the headers, unless the cells are plain texts: for
  units that do not count, it does not.
-/
theorem ofCsv_locates_faults
    (source : String)
    (bytes : Bytes)
    (headers : List String)
    (hSize : bytes.length ≤ 10 * 1024 * 1024)
    (hHeader : IsHeader (headerRecord bytes) headers) :
    (∀ e, ofCsv source bytes = .error e ↔
      (∃ k record,
        IsFirstUnreadable headers (dataRecords bytes) k record ∧
          IsFault headers k record e) ∨
      (AreTooMany headers (dataRecords bytes) ∧
        e = .tooManyRows 1000)) ∧
    ∀ k record,
      IsFirstUnreadable headers (dataRecords bytes) k record →
        ∃ e, ofCsv source bytes = .error e ∧
          (¬ HasPlainCells record → e.row? = some (k + 1)) ∧
          (HasPlainCells record → e.row? = some k) := by
  rcases isHeader_iff.mp hHeader with ⟨hHeaders, columns, hColumns⟩
  have hPlaced := isPlacedBy_of_ofHeaders hColumns
  rw [ofCsv_eq_readRecords hSize hHeaders hColumns]
  refine ⟨fun _ => readRecords_eq_error_iff hPlaced, ?_⟩
  intro k record hFirst
  rcases (exists_isFault_iff hPlaced k).mpr hFirst.unreadable with
    ⟨e, hFault⟩
  exact
    ⟨e,
      (readRecords_eq_error_iff hPlaced).mpr
        (Or.inl ⟨k, record, hFirst, hFault⟩),
      hFault.row?_eq⟩

/- A file whose second record has units that do not count. -/
def miscountedFile : Bytes :=
  Utf8.encode "to,arrrtoshis\na,1\nb,x\n"

/- The headers of that file. -/
private theorem isHeader_miscountedFile :
    IsHeader (headerRecord miscountedFile) ["to", "arrrtoshis"] where
  spelled := by decide +kernel
  plain := by decide +kernel
  address := by decide +kernel
  amount := by decide +kernel

/- Its first record can be read, the second one cannot. -/
private theorem isFirstUnreadable_miscountedFile :
    IsFirstUnreadable ["to", "arrrtoshis"]
      (dataRecords miscountedFile) 2
      (["b", "x"].map Utf8.encode) := by
  have hColumns :
      Columns.ofHeaders ["to", "arrrtoshis"] =
        .ok ⟨0, none, some 1, none, none⟩ := by
    decide +kernel
  have hPlaced := isPlacedBy_of_ofHeaders hColumns
  refine
    { few := by decide
      unreadable := ?_
      placed :=
        ⟨[["a", "1"].map Utf8.encode], [], by decide +kernel, rfl, ?_⟩ }
  · apply (exists_isFault_iff hPlaced 2).mp
    refine ⟨.badUnits 2 "x", (readRecord_eq_error_iff hPlaced).mp ?_⟩
    decide +kernel
  · intro other hOther
    cases List.mem_singleton.mp hOther
    apply (exists_readRecord_iff hPlaced 1).mp
    refine ⟨⟨1, "a", "0.00000001", none, none⟩, ?_⟩
    decide +kernel

/- That record is on the third line, but the second one is named. -/
theorem ofCsv_locates_faults_miscounted :
    ∃ e, ofCsv "r.csv" miscountedFile = .error e ∧
      e.row? = some 2 := by
  have hSize : miscountedFile.length ≤ 10 * 1024 * 1024 := by
    decide +kernel
  have hPlain : HasPlainCells (["b", "x"].map Utf8.encode) :=
    ⟨["b", "x"], rfl, by decide⟩
  rcases (ofCsv_locates_faults "r.csv" _ _ hSize
      isHeader_miscountedFile).2 _ _
    isFirstUnreadable_miscountedFile with ⟨e, hError, _, hRow⟩
  exact ⟨e, hError, hRow hPlain⟩

/- Not every record that cannot be read is named by its line. -/
theorem not_forall_row?_eq :
    ¬ ∀ (source : String) (bytes : Bytes) (headers : List String)
        (k : Nat) (record : Csv.Record) (e : ImportError),
      bytes.length ≤ 10 * 1024 * 1024 →
        IsHeader (headerRecord bytes) headers →
          IsFirstUnreadable headers (dataRecords bytes) k record →
            ofCsv source bytes = .error e →
              e.row? = some (k + 1) := by
  intro hAll
  have hError :
      ofCsv "r.csv" miscountedFile = .error (.badUnits 2 "x") := by
    decide +kernel
  have hRow :=
    hAll "r.csv" miscountedFile _ 2 _ _ (by decide +kernel)
      isHeader_miscountedFile isFirstUnreadable_miscountedFile hError
  cases hRow

end Import

end Remit
