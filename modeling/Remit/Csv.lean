import Remit.Bytes.Utf8

/-
  This file cuts the bytes of a CSV text into records of cells.
  Commas separate cells, either line break or both end a record,
  and lines without anything are no records. A cell that starts
  with a quotation mark may hold commas and line breaks up to
  the next single mark; two marks stand for one.

  Key definitions include:
    * `Csv.Reader`
    * `Csv.Reader.step`
    * `Csv.records`
    * `Csv.text?`
-/

namespace Remit.Csv

/- The cells of a record. -/
abbrev Record : Type :=
  List Bytes

/- Where a reader stands. -/
inductive Place where
| lineStart
| cellStart
| plain
| quoted
| afterMark
deriving DecidableEq, Repr

/-
  The records, the cells of the present record and the bytes of
  the present cell, each latest first, and where the reader
  stands.
-/
structure Reader where
  records : List Record
  cells : List Bytes
  cell : Bytes
  place : Place
deriving DecidableEq, Repr

/- The mark around cells. -/
def mark : UInt8 :=
  0x22

/- The mark between cells. -/
def comma : UInt8 :=
  0x2c

/- A byte that ends a record. -/
def IsBreak (b : UInt8) : Prop :=
  b = 0x0a ∨ b = 0x0d

instance (b : UInt8) : Decidable (IsBreak b) := by
  unfold IsBreak
  infer_instance

namespace Reader

/- Nothing has been read. -/
def start : Reader where
  records := []
  cells := []
  cell := []
  place := .lineStart

/- The present cell goes on, and the reader stands elsewhere. -/
def push (r : Reader) (b : UInt8) (place : Place) : Reader :=
  { r with cell := b :: r.cell, place := place }

/- The present cell is over. -/
def endCell (r : Reader) : Reader :=
  { r with
    cells := r.cell.reverse :: r.cells
    cell := []
    place := .cellStart }

/- The present record is over. -/
def endRecord (r : Reader) : Reader :=
  { records := r.endCell.cells.reverse :: r.records
    cells := []
    cell := []
    place := .lineStart }

/- Read a byte outside of marks that may end the cell. -/
def outside (r : Reader) (b : UInt8) : Reader :=
  if b = comma then
    r.endCell
  else if IsBreak b then
    r.endRecord
  else
    r.push b .plain

/- Read a byte at the start of a cell. -/
def opening (r : Reader) (b : UInt8) : Reader :=
  if b = mark then
    { r with place := .quoted }
  else
    r.outside b

/- Read one byte. -/
def step (r : Reader) (b : UInt8) : Reader :=
  match r.place with
  | .lineStart => if IsBreak b then r else r.opening b
  | .cellStart => r.opening b
  | .plain => r.outside b
  | .quoted =>
      if b = mark then
        { r with place := .afterMark }
      else
        r.push b .quoted
  | .afterMark =>
      if b = mark then
        r.push b .quoted
      else
        r.outside b

/- The records in order, once the text is over. -/
def finish (r : Reader) : List Record :=
  match r.place with
  | .lineStart => r.records.reverse
  | _ => r.endRecord.records.reverse

end Reader

/- The records of a CSV text. -/
def records (bytes : Bytes) : List Record :=
  (bytes.foldl Reader.step Reader.start).finish

/- The cells of a record as texts, if all of them are. -/
def text? (r : Record) : Option (List String) :=
  r.mapM Utf8.decode?

end Remit.Csv
