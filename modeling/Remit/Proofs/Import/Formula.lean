import Remit.Import.Csv
import Remit.Proofs.Except
import Remit.Proofs.Text.Trimming

/-
  This file tells which formulas get past the check of a CSV
  file. The check looks at a cell as it stands, and a row is
  made of trimmed cells: a formula is kept out unless blanks
  stand in front of it.

  Key definitions include:
    * `ImportRow.texts`
    * `Import.IsPadded`
    * `Import.HasRecord`

  Key theorems include:
    * `Import.checkFormulas_eq_ok_iff`
    * `Import.readRecord_eq_ok_iff`
    * `Import.exists_record_of_ofCsv`
    * `Import.isPadded_of_ofCsv`
-/

namespace Remit

/- The texts that a row was given. -/
def ImportRow.texts (r : ImportRow) : List String :=
  r.address :: r.amount :: (r.memo.toList ++ r.label.toList)

namespace Import

/-
  A cell begins with a blank that is no start of a formula, so
  that the check does not see what follows.
-/
def IsPadded (cell : String) : Prop :=
  ∃ b, cell.toList.head? = some b ∧ Text.IsBlank b ∧
    b ∉ formulaMarks

/- The cells of a record of a file, which has the header as number zero. -/
def HasRecord
    (bytes : Bytes)
    (number : Nat)
    (cells : List String) : Prop :=
  ∃ record : Csv.Record,
    (Csv.records (dropMark (dropMark bytes)))[number]? = some record ∧
      Csv.text? record = some cells

------------------------------------------------------------
-- Formulas
------------------------------------------------------------

variable {cells : List String} {cell text : String}

/- A row passes exactly if none of its cells is a formula. -/
theorem checkFormulas_eq_ok_iff
    {headers : List String}
    {row : Nat} :
    checkFormulas headers row cells = .ok () ↔
      ∀ cell ∈ cells, ¬ IsFormula cell := by
  have hNone :
      cells.findIdx? (fun cell => IsFormula cell) = none ↔
        ∀ cell ∈ cells, ¬ IsFormula cell := by
    simp only [List.findIdx?_eq_none_iff, decide_eq_false_iff_not]
  unfold checkFormulas
  rw [← hNone]
  cases cells.findIdx? (fun cell => IsFormula cell) with
  | none => exact iff_of_true rfl rfl
  | some column => exact iff_of_false nofun nofun

/- Nothing is no formula. -/
theorem not_isFormula_empty :
    ¬ IsFormula "" := by
  simp [IsFormula]

/- Amounts are written with a digit first, so they are no formulas. -/
theorem not_isFormula_shortText
    (a : Amount) :
    ¬ IsFormula a.shortText := by
  have hNe : a.wholeDigits ≠ [] := Nat.toDigits_ne_nil
  rcases List.exists_cons_of_ne_nil hNe with ⟨d, ds, hWhole⟩
  have hDigit : d.isDigit = true := by
    apply Numeral.isDigits_digits (a.units / Amount.unitsPerCoin)
    change d ∈ a.wholeDigits
    rw [hWhole]
    exact List.mem_cons_self
  have hHead : a.shortText.toList.head? = some d := by
    unfold Amount.shortText
    split <;> simp [hWhole]
  rintro ⟨c, hc, hMark⟩
  cases hHead.symm.trans hc
  have hNot : ∀ c ∈ formulaMarks, c.isDigit = false := by
    simp [formulaMarks, Char.isDigit]
  rw [hNot d hMark] at hDigit
  cases hDigit

/-
  A trimmed cell is a formula only if the cell was one, or began
  with a blank. The formula then begins with a sign: the other
  marks are blanks.
-/
theorem isPadded_of_trim
    (hCell : ¬ IsFormula cell)
    (hFormula : IsFormula (Text.trim cell)) :
    IsPadded cell ∧
      ∃ c, (Text.trim cell).toList.head? = some c ∧
        c ∈ ['=', '+', '-', '@'] := by
  rcases hFormula with ⟨c, hHead, hMark⟩
  have hTrimmed : (Text.trimList cell.toList).head? = some c := by
    rw [← Text.toList_trim]
    exact hHead
  constructor
  · rcases Text.head?_of_head?_trimList hTrimmed with
      hSame | ⟨b, hBlank, hIs⟩
    · exact absurd ⟨c, hSame, hMark⟩ hCell
    · exact ⟨b, hBlank, hIs, fun h => hCell ⟨b, hBlank, h⟩⟩
  · have hSigns :
        ∀ c ∈ formulaMarks,
          Text.IsBlank c ∨ c ∈ ['=', '+', '-', '@'] := by
      simp [formulaMarks, Text.IsBlank, Text.blanks]
    have hNot := Text.not_isBlank_of_head?_trimList hTrimmed
    exact ⟨c, hHead, (hSigns c hMark).resolve_left hNot⟩

------------------------------------------------------------
-- Cells of a Row
------------------------------------------------------------

/- What was taken from a place is a trimmed cell. -/
theorem mem_of_cell?
    {place : Option Nat}
    (h : cell? cells place = some text) :
    ∃ cell ∈ cells, Text.trim cell = text := by
  rcases Option.map_eq_some_iff.mp h with ⟨cell, hAt, hTrim⟩
  rcases Option.bind_eq_some_iff.mp hAt with ⟨i, _, hGet⟩
  exact ⟨cell, List.mem_of_getElem? hGet, hTrim⟩

/- What is left of a place is a trimmed cell. -/
theorem mem_of_filledCell?
    {place : Option Nat}
    (h : filledCell? cells place = some text) :
    ∃ cell ∈ cells, Text.trim cell = text :=
  mem_of_cell? (Option.filter_eq_some_iff.mp h).1

/- A count of units is no formula once it is written out. -/
theorem not_isFormula_unitsText
    {row : Nat}
    {units : String}
    (h : unitsText row units = .ok text) :
    ¬ IsFormula text := by
  unfold unitsText at h
  split at h
  · cases h
    exact not_isFormula_shortText _
  · cases h

/- An amount that is a formula is a trimmed cell. -/
theorem mem_of_amountText
    {columns : Columns}
    {row : Nat}
    (h : amountText columns row cells = .ok text)
    (hFormula : IsFormula text) :
    ∃ cell ∈ cells, Text.trim cell = text := by
  unfold amountText at h
  split at h
  · rename_i hCoins
    cases h
    exact mem_of_filledCell? hCoins
  · exact absurd hFormula (not_isFormula_unitsText h)
  · cases h
    exact absurd hFormula not_isFormula_empty

/-
  A record is read exactly if its cells are texts, none of them
  is a formula, and its amount can be told; the row is made of
  its cells.
-/
theorem readRecord_eq_ok_iff
    {headers : List String}
    {columns : Columns}
    {number : Nat}
    {record : Csv.Record}
    {row : ImportRow} :
    readRecord headers columns number record = .ok row ↔
      ∃ cells amount,
        Csv.text? record = some cells ∧
          (∀ cell ∈ cells, ¬ IsFormula cell) ∧
          amountText columns number cells = .ok amount ∧
          row =
            { number := number
              address :=
                (cell? cells (some columns.address)).getD ""
              amount := amount
              memo := filledCell? cells columns.memo
              label := filledCell? cells columns.label } := by
  unfold readRecord
  cases hText : Csv.text? record with
  | none => exact iff_of_false nofun nofun
  | some cells =>
      simp only [bind_eq_ok_iff, Option.some.injEq, pure, Except.pure,
        Except.ok.injEq]
      constructor
      · rintro ⟨_, hCheck, amount, hAmount, rfl⟩
        exact
          ⟨cells, amount, rfl, checkFormulas_eq_ok_iff.mp hCheck,
            hAmount, rfl⟩
      · rintro ⟨_, amount, rfl, hCheck, hAmount, rfl⟩
        exact
          ⟨(), checkFormulas_eq_ok_iff.mpr hCheck, amount, hAmount,
            rfl⟩

/- Every text of a row that is a formula is a trimmed cell. -/
theorem mem_of_readRecord
    {headers : List String}
    {columns : Columns}
    {number : Nat}
    {record : Csv.Record}
    {row : ImportRow}
    (h : readRecord headers columns number record = .ok row)
    (hText : text ∈ row.texts)
    (hFormula : IsFormula text) :
    ∃ cells, Csv.text? record = some cells ∧
      ∃ cell ∈ cells, Text.trim cell = text ∧ ¬ IsFormula cell := by
  rcases readRecord_eq_ok_iff.mp h with
    ⟨cells, amount, hRecord, hCheck, hAmount, rfl⟩
  suffices hCell : ∃ cell ∈ cells, Text.trim cell = text by
    rcases hCell with ⟨cell, hMem, hTrim⟩
    exact ⟨cells, hRecord, cell, hMem, hTrim, hCheck cell hMem⟩
  unfold ImportRow.texts at hText
  simp only [List.mem_cons, List.mem_append, Option.mem_toList]
    at hText
  rcases hText with hAddress | rfl | hMemo | hLabel
  · cases hCell : cell? cells (some columns.address) with
    | none =>
        rw [hCell] at hAddress
        subst hAddress
        exact absurd hFormula not_isFormula_empty
    | some address =>
        rw [hCell] at hAddress
        subst hAddress
        exact mem_of_cell? hCell
  · exact mem_of_amountText hAmount hFormula
  · exact mem_of_filledCell? hMemo
  · exact mem_of_filledCell? hLabel

------------------------------------------------------------
-- Files
------------------------------------------------------------

/- Every row was read off the record with its number. -/
theorem exists_record_of_readRecords
    {headers : List String}
    {columns : Columns}
    {records : List Csv.Record}
    {rows : List ImportRow}
    {row : ImportRow}
    (h : readRecords headers columns records = .ok rows)
    (hRow : row ∈ rows) :
    ∃ record, records[row.number - 1]? = some record ∧
      1 ≤ row.number ∧
      readRecord headers columns row.number record = .ok row := by
  rcases exists_mem_of_mapM h hRow with ⟨⟨record, n⟩, hEntry, hRead⟩
  rcases List.mem_zipIdx_iff_le_and_getElem?_sub.mp hEntry with
    ⟨hPos, hGet⟩
  split at hRead
  · cases hRead
  · have hNumber : row.number = n := by
      rcases readRecord_eq_ok_iff.mp hRead with
        ⟨_, _, _, _, _, rfl⟩
      rfl
    rw [hNumber]
    exact ⟨record, hGet, hPos, hRead⟩

/- A file that is accepted has its rows read off its records. -/
theorem exists_record_of_ofCsv
    {source : String}
    {bytes : Bytes}
    {rows : List ImportRow}
    {row : ImportRow}
    (h : ofCsv source bytes = .ok rows)
    (hRow : row ∈ rows) :
    ∃ headers columns record,
      (Csv.records (dropMark (dropMark bytes)))[row.number]? =
          some record ∧
        readRecord headers columns row.number record = .ok row := by
  unfold ofCsv at h
  simp only [bind_eq_ok_iff] at h
  rcases h with ⟨_, _, headers, _, columns, _, hRead⟩
  rcases exists_record_of_readRecords hRead hRow with
    ⟨record, hGet, hPos, hRecord⟩
  rw [List.getElem?_tail, Nat.sub_add_cancel hPos] at hGet
  exact ⟨headers, columns, record, hGet, hRecord⟩

/-
  Whatever formula a row of an accepted file has was a cell of
  its record with blanks in front of it. No text of a row begins
  with a tab or a line break.
-/
theorem isPadded_of_ofCsv
    {source : String}
    {bytes : Bytes}
    {rows : List ImportRow}
    {row : ImportRow}
    (h : ofCsv source bytes = .ok rows)
    (hRow : row ∈ rows)
    (hText : text ∈ row.texts)
    (hFormula : IsFormula text) :
    (∃ c, text.toList.head? = some c ∧ c ∈ ['=', '+', '-', '@']) ∧
      ∃ cells cell,
        HasRecord bytes row.number cells ∧
          cell ∈ cells ∧
          Text.trim cell = text ∧
          IsPadded cell := by
  rcases exists_record_of_ofCsv h hRow with
    ⟨headers, columns, record, hGet, hRead⟩
  rcases mem_of_readRecord hRead hText hFormula with
    ⟨cells, hRecord, cell, hMem, rfl, hCheck⟩
  rcases isPadded_of_trim hCheck hFormula with ⟨hPadded, hSign⟩
  exact
    ⟨hSign, cells, cell, ⟨record, hGet, hRecord⟩, hMem, rfl, hPadded⟩

/- A file with a formula behind a blank, in the column of memos. -/
def paddedFile : Bytes :=
  Utf8.encode "to,amount,memo\na,1, =1+1\n"

/- The row of that file has the formula for a memo. -/
theorem ofCsv_paddedFile :
    ofCsv "r.csv" paddedFile =
      .ok [⟨1, "a", "1", some "=1+1", none⟩] := by
  decide +kernel

/- The formula of that file stood behind a blank. -/
theorem isPadded_of_ofCsv_specimen :
    IsFormula "=1+1" ∧
      ∃ cells cell,
        HasRecord paddedFile 1 cells ∧
          cell ∈ cells ∧
          Text.trim cell = "=1+1" ∧
          IsPadded cell := by
  have hFormula : IsFormula "=1+1" := by
    decide
  have hText :
      "=1+1" ∈ (⟨1, "a", "1", some "=1+1", none⟩ : ImportRow).texts := by
    decide
  exact
    ⟨hFormula,
      (isPadded_of_ofCsv ofCsv_paddedFile List.mem_cons_self hText
        hFormula).2⟩

/- Not every formula is kept out: the one of that file is not. -/
theorem not_forall_not_isFormula :
    ¬ ∀ (source : String) (bytes : Bytes) (rows : List ImportRow),
        ofCsv source bytes = .ok rows →
          ∀ row ∈ rows, ∀ text ∈ row.texts, ¬ IsFormula text := by
  intro hNone
  apply hNone "r.csv" paddedFile _ ofCsv_paddedFile _
    List.mem_cons_self "=1+1"
  · decide
  · decide

end Import

end Remit
