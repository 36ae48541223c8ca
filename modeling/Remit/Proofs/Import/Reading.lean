import Remit.Proofs.Amount.Writing
import Remit.Proofs.Bytes.Utf8
import Remit.Proofs.Import.Columns
import Remit.Proofs.Import.Formula
import Remit.Proofs.Text.Digits

/-
  This file tells which CSV files are accepted and what their
  rows are. It is enough to look at the headers, at the number
  of records and at each record by itself; a row says what its
  record says, and nothing of it comes from another record.

  Key definitions include:
    * `Import.IsHeader`
    * `Import.HasAmount`
    * `Import.IsReadable`
    * `Import.IsRead`
    * `Import.IsAcceptable`

  Key theorems include:
    * `Csv.text?_eq_some_iff`
    * `Import.readRecord_eq_ok_iff_isRead`
    * `Import.exists_readRecord_iff`
    * `Import.readRecords_eq_ok_iff`
    * `Import.exists_ofCsv_iff`
    * `Import.ofCsv_accepts_and_reads`
-/

namespace Remit

------------------------------------------------------------
-- Texts of Records
------------------------------------------------------------

/- The cells of a record are texts when it spells them. -/
theorem Csv.text?_eq_some_iff
    {record : Record}
    {cells : List String} :
    text? record = some cells ↔ record = cells.map Utf8.encode := by
  unfold text?
  induction record generalizing cells with
  | nil =>
      rw [List.mapM_nil, eq_comm (a := []), List.map_eq_nil_iff]
      change some [] = some cells ↔ cells = []
      rw [Option.some.injEq, eq_comm]
  | cons bytes record ih =>
      rw [List.mapM_cons]
      cases cells with
      | nil =>
          refine iff_of_false ?_ nofun
          intro h
          rcases Option.bind_eq_some_iff.mp h with ⟨_, _, hRest⟩
          rcases Option.bind_eq_some_iff.mp hRest with ⟨_, _, hPure⟩
          cases hPure
      | cons cell cells =>
          rw [List.map_cons, List.cons.injEq, ← ih,
            ← Utf8.decode?_eq_some_iff]
          constructor
          · intro h
            rcases Option.bind_eq_some_iff.mp h with ⟨_, hCell, hRest⟩
            rcases Option.bind_eq_some_iff.mp hRest with
              ⟨_, hCells, hPure⟩
            cases hPure
            exact ⟨hCell, hCells⟩
          · rintro ⟨hCell, hCells⟩
            rw [hCell, hCells]
            rfl

namespace Import

variable {headers cells : List String} {columns : Columns}
variable {record : Csv.Record} {records : List Csv.Record}
variable {number : Nat} {row : ImportRow} {rows : List ImportRow}
variable {text units : String}

------------------------------------------------------------
-- Amounts
------------------------------------------------------------

/-
  The text of the amount of a record: what it says in coins. If
  it says nothing there, it is the shortest text of the amount
  with the units that the record counts; and if it counts none
  either, there is none.
-/
inductive HasAmount (headers cells : List String) : String → Prop
| coins {text : String}
    (hCoins : Says headers cells .amount text) :
    HasAmount headers cells text
| units {units text : String} {a : Amount}
    (hNone : ∀ text, ¬ Says headers cells .amount text)
    (hUnits : Says headers cells .units units)
    (hCount : Numeral.IsCount units.toList a.units)
    (hWritten : a.IsWrittenBy text) :
    HasAmount headers cells text
| none
    (hNone : ∀ text, ¬ Says headers cells .amount text)
    (hNoUnits : ∀ text, ¬ Says headers cells .units text) :
    HasAmount headers cells ""

/- The units count, where they are needed, within the supply. -/
def HasReadableAmount (headers cells : List String) : Prop :=
  ∀ units,
    (∀ text, ¬ Says headers cells .amount text) →
      Says headers cells .units units →
        ∃ n, Numeral.IsCount units.toList n ∧ n ≤ Amount.cap

/- The text of units is that of the amount which they count. -/
theorem unitsText_eq_ok_iff :
    unitsText number units = .ok text ↔
      ∃ a : Amount, Numeral.IsCount units.toList a.units ∧
        a.IsWrittenBy text := by
  unfold unitsText
  simp only [Amount.isWrittenBy_iff, ← Numeral.unsigned?_eq_some_iff]
  cases hCount : Numeral.unsigned? units.toList with
  | none => exact iff_of_false nofun nofun
  | some n =>
      simp only [Option.bind_some, Option.some.injEq,
        ← Amount.ofUnits_eq_ok_iff]
      cases Amount.ofUnits n with
      | error e => exact iff_of_false nofun nofun
      | ok a =>
          change Except.ok a.shortText = Except.ok text ↔ _
          simp only [Except.ok.injEq, exists_eq_left', eq_comm]

/- Units are refused exactly if they do not count within the supply. -/
theorem unitsText_eq_error_iff
    {e : ImportError} :
    unitsText number units = .error e ↔
      (¬ ∃ n, Numeral.IsCount units.toList n ∧ n ≤ Amount.cap) ∧
        e = .badUnits number units := by
  have hOk :
      (∃ n, Numeral.IsCount units.toList n ∧ n ≤ Amount.cap) ↔
        ∃ text, unitsText number units = .ok text := by
    simp only [unitsText_eq_ok_iff]
    constructor
    · rintro ⟨n, hCount, hCap⟩
      exact ⟨_, ⟨n, hCap⟩, hCount, Amount.isWrittenBy_shortText _⟩
    · rintro ⟨_, a, hCount, _⟩
      exact ⟨a.units, hCount, a.units_le⟩
  rw [hOk]
  unfold unitsText
  split
  · exact iff_of_false nofun (fun h => h.1 ⟨_, rfl⟩)
  · rw [Except.error.injEq, eq_comm]
    exact ⟨fun h => ⟨nofun, h⟩, fun h => h.2⟩

/- The amount is read as the record has it. -/
theorem amountText_eq_ok_iff
    (hColumns : IsPlacedBy columns headers) :
    amountText columns number cells = .ok text ↔
      HasAmount headers cells text := by
  unfold amountText
  rw [hColumns.amount, hColumns.units]
  split
  · rename_i hCoins
    have hSays := filledCell?_eq_some_iff.mp hCoins
    rw [Except.ok.injEq]
    constructor
    · rintro rfl
      exact .coins hSays
    · rintro (hOther | ⟨hNone, -, -, -⟩ | ⟨hNone, -⟩)
      · exact hSays.unique hOther
      · exact absurd hSays (hNone _)
      · exact absurd hSays (hNone _)
  · rename_i hCoins hUnits
    have hNone := filledCell?_eq_none_iff.mp hCoins
    have hSays := filledCell?_eq_some_iff.mp hUnits
    rw [unitsText_eq_ok_iff]
    constructor
    · rintro ⟨a, hCount, hWritten⟩
      exact .units hNone hSays hCount hWritten
    · rintro (hOther | ⟨-, hOther, hCount, hWritten⟩ | ⟨-, hNoUnits⟩)
      · exact absurd hOther (hNone _)
      · rw [hSays.unique hOther]
        exact ⟨_, hCount, hWritten⟩
      · exact absurd hSays (hNoUnits _)
  · rename_i hCoins hUnits
    have hNone := filledCell?_eq_none_iff.mp hCoins
    have hNoUnits := filledCell?_eq_none_iff.mp hUnits
    rw [Except.ok.injEq]
    constructor
    · rintro rfl
      exact .none hNone hNoUnits
    · rintro (hOther | ⟨-, hOther, -, -⟩ | -)
      · exact absurd hOther (hNone _)
      · exact absurd hOther (hNoUnits _)
      · rfl

/- An amount is refused exactly for units that do not count. -/
theorem amountText_eq_error_iff
    {e : ImportError}
    (hColumns : IsPlacedBy columns headers) :
    amountText columns number cells = .error e ↔
      ∃ units,
        (∀ text, ¬ Says headers cells .amount text) ∧
          Says headers cells .units units ∧
          (¬ ∃ n, Numeral.IsCount units.toList n ∧ n ≤ Amount.cap) ∧
          e = .badUnits number units := by
  unfold amountText
  rw [hColumns.amount, hColumns.units]
  split
  · rename_i hCoins
    have hSays := filledCell?_eq_some_iff.mp hCoins
    refine iff_of_false nofun ?_
    rintro ⟨_, hNone, -⟩
    exact hNone _ hSays
  · rename_i hCoins hUnits
    have hNone := filledCell?_eq_none_iff.mp hCoins
    have hSays := filledCell?_eq_some_iff.mp hUnits
    rw [unitsText_eq_error_iff]
    constructor
    · exact fun h => ⟨_, hNone, hSays, h⟩
    · rintro ⟨_, -, hOther, h⟩
      rw [hSays.unique hOther]
      exact h
  · rename_i hCoins hUnits
    have hNoUnits := filledCell?_eq_none_iff.mp hUnits
    refine iff_of_false nofun ?_
    rintro ⟨_, -, hSays, -⟩
    exact hNoUnits _ hSays

/- An amount can be told exactly if units count where needed. -/
theorem exists_amountText_iff
    (hColumns : IsPlacedBy columns headers) :
    (∃ text, amountText columns number cells = .ok text) ↔
      HasReadableAmount headers cells := by
  rw [← not_iff_not, not_exists_ok_iff]
  simp only [amountText_eq_error_iff hColumns]
  unfold HasReadableAmount
  push Not
  constructor
  · intro h
    rcases h with ⟨_, units, hNone, hSays, hCount, _⟩
    exact ⟨units, hNone, hSays, hCount⟩
  · intro h
    rcases h with ⟨units, hNone, hSays, hCount⟩
    exact ⟨_, units, hNone, hSays, hCount, rfl⟩

------------------------------------------------------------
-- Records
------------------------------------------------------------

/- The address of a record: what it says there, if anything. -/
def HasAddress (headers cells : List String) (address : String) :
    Prop :=
  Says headers cells .address address ∨
    address = "" ∧ ∀ text, ¬ Says headers cells .address text

/- A row says, under its number, what the cells of a record say. -/
structure IsRead
    (headers cells : List String)
    (number : Nat)
    (row : ImportRow) : Prop where
  number : row.number = number
  address : HasAddress headers cells row.address
  amount : HasAmount headers cells row.amount
  memo : ∀ text, row.memo = some text ↔ Says headers cells .memo text
  label :
    ∀ text, row.label = some text ↔ Says headers cells .label text

/-
  A record can be read: it spells texts, none of them a formula,
  and units count where they are needed.
-/
def IsReadable (headers : List String) (record : Csv.Record) : Prop :=
  ∃ cells, record = cells.map Utf8.encode ∧
    (∀ cell ∈ cells, ¬ IsFormula cell) ∧
    HasReadableAmount headers cells

/- What is taken from the place of addresses is the address. -/
theorem getD_cell?_eq_iff
    (hColumns : IsPlacedBy columns headers) :
    (cell? cells (some columns.address)).getD "" = text ↔
      HasAddress headers cells text := by
  have hSays :
      ∀ text, Says headers cells .address text ↔
        text ≠ "" ∧ cell? cells (some columns.address) = some text := by
    intro text
    rw [← hColumns.address, cell?_eq_some_iff]
    rfl
  unfold HasAddress
  simp only [hSays]
  cases cell? cells (some columns.address) with
  | none =>
      simp only [Option.getD_none, reduceCtorEq, and_false, false_or,
        not_false_eq_true, implies_true, and_true, eq_comm]
  | some cell =>
      rw [Option.getD_some]
      by_cases hBlank : cell = ""
      · subst hBlank
        simp only [Option.some.injEq, ne_eq]
        constructor
        · intro h
          exact Or.inr ⟨h.symm, fun _ hText => hText.1 hText.2.symm⟩
        · intro h
          rcases h with hText | hText
          · exact hText.2
          · exact hText.1.symm
      · simp only [Option.some.injEq, ne_eq]
        constructor
        · intro h
          exact Or.inl ⟨h ▸ hBlank, h⟩
        · intro h
          rcases h with hText | hText
          · exact hText.2
          · exact absurd ⟨hBlank, rfl⟩ (hText.2 cell)

/- What is left of the place of a column is what is said there. -/
theorem eq_filledCell?_iff
    {column : Column}
    {said : Option String} :
    said = filledCell? cells (placeIn? headers column) ↔
      ∀ text, said = some text ↔ Says headers cells column text := by
  rw [Option.ext_iff]
  simp only [filledCell?_eq_some_iff]

/- A row is read off a record that spells plain texts. -/
theorem readRecord_eq_ok_iff_isRead
    (hColumns : IsPlacedBy columns headers) :
    readRecord headers columns number record = .ok row ↔
      ∃ cells, record = cells.map Utf8.encode ∧
        (∀ cell ∈ cells, ¬ IsFormula cell) ∧
        IsRead headers cells number row := by
  simp only [readRecord_eq_ok_iff, Csv.text?_eq_some_iff,
    amountText_eq_ok_iff hColumns, hColumns.memo, hColumns.label]
  refine exists_congr fun cells => ?_
  constructor
  · intro h
    rcases h with ⟨amount, hRecord, hPlain, hAmount, hRow⟩
    subst hRow
    exact
      ⟨hRecord, hPlain,
        { number := rfl
          address := (getD_cell?_eq_iff hColumns).mp rfl
          amount := hAmount
          memo := eq_filledCell?_iff.mp rfl
          label := eq_filledCell?_iff.mp rfl }⟩
  · intro h
    rcases h with ⟨hRecord, hPlain, hRead⟩
    refine ⟨row.amount, hRecord, hPlain, hRead.amount, ?_⟩
    rw [(getD_cell?_eq_iff hColumns).mpr hRead.address,
      ← eq_filledCell?_iff.mpr hRead.memo,
      ← eq_filledCell?_iff.mpr hRead.label, ← hRead.number]

/- Some row is read off a record exactly if it can be read. -/
theorem exists_readRecord_iff
    (hColumns : IsPlacedBy columns headers)
    (number : Nat) :
    (∃ row, readRecord headers columns number record = .ok row) ↔
      IsReadable headers record := by
  simp only [readRecord_eq_ok_iff, Csv.text?_eq_some_iff]
  unfold IsReadable
  constructor
  · intro h
    rcases h with ⟨_, cells, amount, hRecord, hPlain, hAmount, _⟩
    exact
      ⟨cells, hRecord, hPlain,
        (exists_amountText_iff hColumns).mp ⟨amount, hAmount⟩⟩
  · intro h
    rcases h with ⟨cells, hRecord, hPlain, hAmount⟩
    rcases (exists_amountText_iff hColumns).mpr hAmount with
      ⟨amount, hText⟩
    exact ⟨_, cells, amount, hRecord, hPlain, hText, rfl⟩

/- Under another number the row of a record is the same otherwise. -/
theorem readRecord_renumber
    {other : Nat}
    (hColumns : IsPlacedBy columns headers)
    (h : readRecord headers columns number record = .ok row) :
    readRecord headers columns other record =
      .ok { row with number := other } := by
  rw [readRecord_eq_ok_iff_isRead hColumns] at h ⊢
  rcases h with ⟨cells, hRecord, hPlain, hRead⟩
  exact ⟨cells, hRecord, hPlain, { hRead with number := rfl }⟩

/- Records are numbered up to their count, from one. -/
private theorem forall_number_le_iff
    {most : Nat} :
    (∀ entry ∈ records.zipIdx 1, entry.2 ≤ most) ↔
      records.length ≤ most := by
  constructor
  · intro h
    by_contra hMore
    have hLast : most < records.length := by omega
    have hEntry : (records[most], most + 1) ∈ records.zipIdx 1 :=
      List.mem_zipIdx_iff_le_and_getElem?_sub.mpr
        ⟨by omega, List.getElem?_eq_getElem hLast⟩
    exact absurd (h _ hEntry) (by omega)
  · intro h entry hEntry
    rcases List.mem_zipIdx_iff_le_and_getElem?_sub.mp hEntry with
      ⟨hPos, hGet⟩
    rcases List.getElem?_eq_some_iff.mp hGet with ⟨hLess, _⟩
    omega

/- A record is read if its number is not too great. -/
private theorem readNumbered_eq_ok_iff :
    (if mostRows < number then
        Except.error (.tooManyRows mostRows)
      else
        readRecord headers columns number record) = .ok row ↔
      number ≤ mostRows ∧
        readRecord headers columns number record = .ok row := by
  split
  · exact iff_of_false nofun (fun h => by omega)
  · exact ⟨fun h => ⟨by omega, h⟩, fun h => h.2⟩

/- Rows are read off records in order and numbered from one. -/
theorem readRecords_eq_ok_iff :
    readRecords headers columns records = .ok rows ↔
      records.length ≤ mostRows ∧
        rows.length = records.length ∧
        ∀ i record row,
          records[i]? = some record → rows[i]? = some row →
            readRecord headers columns (i + 1) record = .ok row := by
  unfold readRecords
  rw [mapM_eq_ok_iff]
  simp only [readNumbered_eq_ok_iff]
  rw [List.forall₂_and_left, forall_number_le_iff,
    List.forall₂_iff_get]
  simp only [List.length_zipIdx, List.get_eq_getElem,
    List.getElem_zipIdx, Nat.add_comm 1]
  rw [eq_comm (a := rows.length)]
  refine and_congr_right fun _ => and_congr_right fun _ => ?_
  constructor
  · intro h i record row hRecord hRow
    rcases List.getElem?_eq_some_iff.mp hRecord with ⟨hi, rfl⟩
    rcases List.getElem?_eq_some_iff.mp hRow with ⟨hj, rfl⟩
    exact h i hi hj
  · intro h i hi hj
    exact h i _ _ (List.getElem?_eq_getElem hi)
      (List.getElem?_eq_getElem hj)

/- The row at a place is read off the record at that place. -/
theorem exists_row_of_readRecords
    {i : Nat}
    (h : readRecords headers columns records = .ok rows)
    (hRecord : records[i]? = some record) :
    ∃ row, rows[i]? = some row ∧
      readRecord headers columns (i + 1) record = .ok row := by
  rcases readRecords_eq_ok_iff.mp h with ⟨_, hLength, hEach⟩
  have hi : i < rows.length := by
    rw [hLength]
    exact (List.getElem?_eq_some_iff.mp hRecord).1
  have hRow := List.getElem?_eq_getElem hi
  exact ⟨_, hRow, hEach i record _ hRecord hRow⟩

/- Some are exactly if the records are few and can be read. -/
theorem exists_readRecords_iff
    (hColumns : IsPlacedBy columns headers) :
    (∃ rows, readRecords headers columns records = .ok rows) ↔
      records.length ≤ mostRows ∧
        ∀ record ∈ records, IsReadable headers record := by
  unfold readRecords
  rw [exists_mapM_iff]
  have hReadable :
      (∀ record ∈ records, IsReadable headers record) ↔
        ∀ entry ∈ records.zipIdx 1, IsReadable headers entry.1 := by
    rw [← List.forall_mem_map (f := Prod.fst), List.zipIdx_map_fst]
  rw [hReadable, ← forall_number_le_iff]
  simp only [readNumbered_eq_ok_iff, exists_and_left,
    exists_readRecord_iff hColumns, imp_and, forall_and]

------------------------------------------------------------
-- Files
------------------------------------------------------------

variable {source : String} {bytes : Bytes}

/- The record of the headers of a file: its first one. -/
def headerRecord (bytes : Bytes) : Csv.Record :=
  (Csv.records (dropMark (dropMark bytes))).headD []

/- The records of the rows of a file: all the others. -/
def dataRecords (bytes : Bytes) : List Csv.Record :=
  (Csv.records (dropMark (dropMark bytes))).tail

/-
  A record has headers that rows can be read by: it spells them,
  none is a formula, and addresses and amounts have columns.
-/
structure IsHeader
    (record : Csv.Record)
    (headers : List String) : Prop where
  spelled : record = headers.map Utf8.encode
  plain : ∀ header ∈ headers, ¬ IsFormula header
  address : ∃ header ∈ headers, Column.address.IsNamedBy header
  amount :
    ∃ header ∈ headers,
      Column.amount.IsNamedBy header ∨ Column.units.IsNamedBy header

/- Headers are read off a record that spells plain texts. -/
theorem readHeaders_eq_ok_iff :
    readHeaders record = .ok headers ↔
      record = headers.map Utf8.encode ∧
        ∀ header ∈ headers, ¬ IsFormula header := by
  rw [← Csv.text?_eq_some_iff]
  unfold readHeaders
  cases Csv.text? record with
  | none => exact iff_of_false nofun nofun
  | some texts =>
      simp only [bind_eq_ok_iff, Option.some.injEq, pure, Except.pure,
        Except.ok.injEq]
      constructor
      · intro h
        rcases h with ⟨_, hCheck, rfl⟩
        exact ⟨rfl, checkFormulas_eq_ok_iff.mp hCheck⟩
      · intro h
        rcases h with ⟨rfl, hPlain⟩
        exact ⟨(), checkFormulas_eq_ok_iff.mpr hPlain, rfl⟩

/- Rows can be read by headers whose columns have places. -/
theorem isHeader_iff :
    IsHeader record headers ↔
      readHeaders record = .ok headers ∧
        ∃ columns, Columns.ofHeaders headers = .ok columns := by
  rw [readHeaders_eq_ok_iff, exists_ofHeaders_iff]
  constructor
  · intro h
    exact ⟨⟨h.spelled, h.plain⟩, h.address, h.amount⟩
  · intro h
    exact
      { spelled := h.1.1
        plain := h.1.2
        address := h.2.1
        amount := h.2.2 }

/- A file is read by its headers, unless it is too large. -/
theorem ofCsv_eq_ok_iff :
    ofCsv source bytes = .ok rows ↔
      bytes.length ≤ mostBytes ∧
        ∃ headers columns,
          readHeaders (headerRecord bytes) = .ok headers ∧
            Columns.ofHeaders headers = .ok columns ∧
            readRecords headers columns (dataRecords bytes) =
              .ok rows := by
  have hSize :
      (∃ u, checkSize source bytes = .ok u) ↔
        bytes.length ≤ mostBytes := by
    unfold checkSize
    split
    · exact iff_of_false nofun (by omega)
    · exact iff_of_true ⟨_, rfl⟩ (by omega)
  rw [← hSize]
  unfold ofCsv
  simp only [bind_eq_ok_iff]
  constructor
  · intro h
    rcases h with ⟨u, hu, headers, hHeaders, columns, hColumns, hRows⟩
    exact ⟨⟨u, hu⟩, headers, columns, hHeaders, hColumns, hRows⟩
  · intro h
    rcases h with ⟨⟨u, hu⟩, headers, columns, hHeaders, hColumns, hRows⟩
    exact ⟨u, hu, headers, hHeaders, columns, hColumns, hRows⟩

/- A file with such headers has its rows read by them. -/
theorem ofCsv_eq_readRecords
    (hSize : bytes.length ≤ mostBytes)
    (hHeaders : readHeaders (headerRecord bytes) = .ok headers)
    (hColumns : Columns.ofHeaders headers = .ok columns) :
    ofCsv source bytes =
      readRecords headers columns (dataRecords bytes) := by
  have hFits : checkSize source bytes = .ok () :=
    if_neg (Nat.not_lt.mpr hSize)
  unfold ofCsv
  rw [hFits]
  change readHeaders (headerRecord bytes) >>= _ = _
  rw [hHeaders]
  change Columns.ofHeaders headers >>= _ = _
  rw [hColumns]
  rfl

/-
  A file can be accepted: rows can be read by its headers, there
  are no more than a thousand records, and each can be read.
-/
def IsAcceptable (bytes : Bytes) : Prop :=
  ∃ headers, IsHeader (headerRecord bytes) headers ∧
    (dataRecords bytes).length ≤ 1000 ∧
    ∀ record ∈ dataRecords bytes, IsReadable headers record

/- Such a file is accepted, and no other one. -/
theorem exists_ofCsv_iff
    (hSize : bytes.length ≤ mostBytes) :
    (∃ rows, ofCsv source bytes = .ok rows) ↔ IsAcceptable bytes := by
  simp only [ofCsv_eq_ok_iff, IsAcceptable, isHeader_iff]
  constructor
  · intro h
    rcases h with
      ⟨rows, _, headers, columns, hHeaders, hColumns, hRows⟩
    have hPlaced := isPlacedBy_of_ofHeaders hColumns
    exact
      ⟨headers, ⟨hHeaders, columns, hColumns⟩,
        (exists_readRecords_iff hPlaced).mp ⟨rows, hRows⟩⟩
  · intro h
    rcases h with ⟨headers, ⟨hHeaders, columns, hColumns⟩, hRecords⟩
    have hPlaced := isPlacedBy_of_ofHeaders hColumns
    rcases (exists_readRecords_iff hPlaced).mpr hRecords with
      ⟨rows, hRows⟩
    exact ⟨rows, hSize, headers, columns, hHeaders, hColumns, hRows⟩

/-
  A row is that of a record alone: in any accepted file with the
  same headers, the record has this row at its place, under the
  number of the place.
-/
def IsRowOf
    (header record : Csv.Record)
    (row : ImportRow) : Prop :=
  ∀ (source : String) (bytes : Bytes) (rows : List ImportRow) (i : Nat),
    ofCsv source bytes = .ok rows →
      headerRecord bytes = header →
        (dataRecords bytes)[i]? = some record →
          rows[i]? = some { row with number := i + 1 }

/- What is read off a record is the row of the record alone. -/
theorem isRowOf_of_readRecord
    {header : Csv.Record}
    (hHeaders : readHeaders header = .ok headers)
    (hColumns : Columns.ofHeaders headers = .ok columns)
    (hRead : readRecord headers columns number record = .ok row) :
    IsRowOf header record row := by
  intro source bytes rows i hOk hHeader hRecord
  rcases ofCsv_eq_ok_iff.mp hOk with
    ⟨_, headers', columns', hHeaders', hColumns', hRows⟩
  -- The other file has the same headers, so the same columns.
  rw [hHeader, hHeaders] at hHeaders'
  cases hHeaders'
  rw [hColumns] at hColumns'
  cases hColumns'
  rcases exists_row_of_readRecords hRows hRecord with
    ⟨row', hRow, hSame⟩
  have hPlaced := isPlacedBy_of_ofHeaders hColumns
  rw [readRecord_renumber hPlaced hRead] at hSame
  rw [hRow, Except.ok.inj hSame]

/-
  Rows are those of a file with headers: one for each record, in
  order and numbered from one, each of its record alone.
-/
structure IsReadOff
    (bytes : Bytes)
    (headers : List String)
    (rows : List ImportRow) : Prop where
  length : rows.length = (dataRecords bytes).length
  each :
    ∀ i record, (dataRecords bytes)[i]? = some record →
      ∃ row cells, rows[i]? = some row ∧
        record = cells.map Utf8.encode ∧
        IsRead headers cells (i + 1) row ∧
        IsRowOf (headerRecord bytes) record row

/-
  A file that is not too large is accepted exactly if rows can
  be read by its headers, it has no more than a thousand other
  records, and each of these can be read. Its rows are then read
  off the records, one by one.
-/
theorem ofCsv_accepts_and_reads
    (source : String)
    (bytes : Bytes)
    (hSize : bytes.length ≤ 10 * 1024 * 1024) :
    ((∃ rows, ofCsv source bytes = .ok rows) ↔ IsAcceptable bytes) ∧
      ∀ rows, ofCsv source bytes = .ok rows →
        ∃ headers, IsHeader (headerRecord bytes) headers ∧
          IsReadOff bytes headers rows := by
  refine ⟨exists_ofCsv_iff hSize, fun rows hOk => ?_⟩
  rcases ofCsv_eq_ok_iff.mp hOk with
    ⟨_, headers, columns, hHeaders, hColumns, hRows⟩
  have hPlaced := isPlacedBy_of_ofHeaders hColumns
  refine
    ⟨headers, isHeader_iff.mpr ⟨hHeaders, columns, hColumns⟩,
      { length := (readRecords_eq_ok_iff.mp hRows).2.1
        each := fun i record hRecord => ?_ }⟩
  rcases exists_row_of_readRecords hRows hRecord with
    ⟨row, hRow, hRead⟩
  rcases (readRecord_eq_ok_iff_isRead hPlaced).mp hRead with
    ⟨cells, hCells, _, hIsRead⟩
  exact
    ⟨row, cells, hRow, hCells, hIsRead,
      isRowOf_of_readRecord hHeaders hColumns hRead⟩

/-
  A file with two columns of addresses, a column of amounts in
  coins and one in units, a cell in marks, and short records.
-/
def mixedFile : Bytes :=
  Utf8.encode
    ("To , Amount,ARRRTOSHIS,note,to\n a , 2 ,x,\" hi, you \",z\n"
      ++ "b, , 150000000 \nc\n")

/- The rows of that file. -/
def mixedRows : List ImportRow :=
  [⟨1, "a", "2", some "hi, you", none⟩,
   ⟨2, "b", "1.5", none, none⟩,
   ⟨3, "c", "", none, none⟩]

/- The rows of that file are read off its records. -/
theorem ofCsv_accepts_and_reads_mixed :
    mixedFile.length ≤ 10 * 1024 * 1024 ∧
      IsAcceptable mixedFile ∧
      ∃ headers, IsHeader (headerRecord mixedFile) headers ∧
        IsReadOff mixedFile headers mixedRows := by
  have hSize : mixedFile.length ≤ 10 * 1024 * 1024 := by
    decide +kernel
  have hOk : ofCsv "r.csv" mixedFile = .ok mixedRows := by
    decide +kernel
  have hReads := ofCsv_accepts_and_reads "r.csv" mixedFile hSize
  exact ⟨hSize, hReads.1.mp ⟨mixedRows, hOk⟩, hReads.2 _ hOk⟩

end Import

end Remit
