import Remit.Amount.Decimal
import Remit.Csv
import Remit.Import.Error
import Remit.Import.Row

/-
  This file reads recipients from CSV files. The first record
  names the columns; every other record is one recipient. A cell
  that a spreadsheet would take for a formula is refused.

  Key definitions include:
    * `Import.mostBytes`
    * `Import.mostRows`
    * `Import.Columns`
    * `Import.IsFormula`
    * `Import.readRecord`
    * `Import.readRecords`
    * `Import.ofCsv`
-/

namespace Remit.Import

------------------------------------------------------------
-- Limits
------------------------------------------------------------

/- The most bytes of a file. -/
def mostBytes : Nat :=
  10 * 1024 * 1024

/- The most recipients of a file. -/
def mostRows : Nat :=
  1000

/- The bytes without the mark of UTF-8 at the start. -/
def dropMark (bytes : Bytes) : Bytes :=
  match bytes with
  | 0xef :: 0xbb :: 0xbf :: rest => rest
  | _ => bytes

/- Refuse a file with too many bytes. -/
def checkSize (source : String) (bytes : Bytes) :
    Except ImportError Unit :=
  if mostBytes < bytes.length then
    .error (.tooLarge source mostBytes)
  else
    .ok ()

------------------------------------------------------------
-- Columns
------------------------------------------------------------

/- What a column can hold. -/
inductive Column where
| address
| amount
| units
| memo
| label
deriving DecidableEq, Repr

/- What a column with a trimmed small name holds. -/
def Column.ofName? (name : String) : Option Column :=
  if name ∈ ["address", "recipient", "to"] then
    some address
  else if name ∈ ["amount", "value", "arrr"] then
    some amount
  else if name ∈ ["amount_arrrtoshis", "arrrtoshis"] then
    some units
  else if name ∈ ["memo", "message", "note"] then
    some memo
  else if name ∈ ["label", "name"] then
    some label
  else
    none

/- What a column with a header holds. -/
def Column.ofHeader? (header : String) : Option Column :=
  Column.ofName? (Text.lower (Text.trim header))

/- The place of the first column that holds something. -/
def place? (held : List (Option Column)) (column : Column) : Option Nat :=
  held.findIdx? (· = some column)

/- The places of the columns that a file has. -/
structure Columns where
  address : Nat
  amount : Option Nat
  units : Option Nat
  memo : Option Nat
  label : Option Nat
deriving DecidableEq, Repr

/- An amount may be given in coins or in units, an address must be. -/
def Columns.ofHeaders (headers : List String) :
    Except ImportError Columns :=
  let held := headers.map Column.ofHeader?
  match place? held .address with
  | none => .error .noAddressColumn
  | some address =>
      let amount := place? held .amount
      let units := place? held .units
      if amount.isNone ∧ units.isNone then
        .error .noAmountColumn
      else
        .ok
          ⟨address, amount, units, place? held .memo,
           place? held .label⟩

------------------------------------------------------------
-- Formulas
------------------------------------------------------------

/- The characters that a spreadsheet takes for the start of a formula. -/
def formulaMarks : List Char :=
  ['=', '+', '-', '@', '\t', '\r']

/- A spreadsheet would take the cell for a formula. -/
def IsFormula (cell : String) : Prop :=
  ∃ c ∈ cell.toList.head?, c ∈ formulaMarks

instance (cell : String) : Decidable (IsFormula cell) :=
  match h : cell.toList.head? with
  | none => isFalse (by simp [IsFormula, h])
  | some c =>
      if hc : c ∈ formulaMarks then
        isTrue ⟨c, by simp [h], hc⟩
      else
        isFalse (by simpa [IsFormula, h] using hc)

/- The name of a column: its header, or its number counted from one. -/
def columnName (headers : List String) (column : Nat) : String :=
  headers.getD column ("column#" ++ toString (column + 1))

/- Refuse a row with a formula; the first one is reported. -/
def checkFormulas
    (headers : List String)
    (row : Nat)
    (cells : List String) : Except ImportError Unit :=
  match cells.findIdx? (fun cell => IsFormula cell) with
  | some column => .error (.formula row (columnName headers column))
  | none => .ok ()

------------------------------------------------------------
-- Records
------------------------------------------------------------

/- The trimmed cell at a place. -/
def cell? (cells : List String) (place : Option Nat) : Option String :=
  (place.bind (fun i => cells[i]?)).map Text.trim

/- The trimmed cell at a place, unless it is blank. -/
def filledCell? (cells : List String) (place : Option Nat) :
    Option String :=
  (cell? cells place).filter (· ≠ "")

/- The decimal text of a count of units. -/
def unitsText (row : Nat) (text : String) : Except ImportError String :=
  match
    (Numeral.unsigned? text.toList).bind
      (fun n => (Amount.ofUnits n).toOption) with
  | some a => .ok a.shortText
  | none => .error (.badUnits row text)

/- The amount of a record: in coins, or else in units, or else none. -/
def amountText
    (columns : Columns)
    (row : Nat)
    (cells : List String) : Except ImportError String :=
  match filledCell? cells columns.amount, filledCell? cells columns.units with
  | some text, _ => .ok text
  | none, some text => unitsText row text
  | none, none => .ok ""

/- The row of a record; records are counted from one. -/
def readRecord
    (headers : List String)
    (columns : Columns)
    (number : Nat)
    (record : Csv.Record) : Except ImportError ImportRow :=
  match Csv.text? record with
  | none => .error (.recordUnreadable (number + 1))
  | some cells => do
      checkFormulas headers (number + 1) cells
      let amount ← amountText columns number cells
      return {
        number := number
        address := (cell? cells (some columns.address)).getD ""
        amount := amount
        memo := filledCell? cells columns.memo
        label := filledCell? cells columns.label }

/- The rows of records, of which there must not be too many. -/
def readRecords
    (headers : List String)
    (columns : Columns)
    (records : List Csv.Record) : Except ImportError (List ImportRow) :=
  (records.zipIdx 1).mapM
    (fun entry =>
      if mostRows < entry.2 then
        .error (.tooManyRows mostRows)
      else
        readRecord headers columns entry.2 entry.1)

/- The names of the columns. -/
def readHeaders (record : Csv.Record) :
    Except ImportError (List String) := do
  match Csv.text? record with
  | none => .error .headersUnreadable
  | some headers =>
      checkFormulas [] 1 headers
      return headers

/-
  The rows of a CSV file. A mark of UTF-8 at the start is passed
  over, and so is a second one.
-/
def ofCsv (source : String) (bytes : Bytes) :
    Except ImportError (List ImportRow) := do
  checkSize source bytes
  let records := Csv.records (dropMark (dropMark bytes))
  let headers ← readHeaders (records.headD [])
  let columns ← Columns.ofHeaders headers
  readRecords headers columns records.tail

end Remit.Import
