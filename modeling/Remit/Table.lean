import Remit.Text.Search
import Remit.Text.Width.Basic

/-
  This file lays out tables with plain borders. A cell may have
  several lines; every column is as wide as its widest line on a
  terminal.

  Key definitions include:
    * `Table`
    * `Table.widths`
    * `Table.render`
-/

namespace Remit

/- A header and rows of cells, each row as long as the header. -/
structure Table where
  header : List String
  rows : List (List String)
deriving DecidableEq, Repr

namespace Table

------------------------------------------------------------
-- Cells
------------------------------------------------------------

/- The lines of a cell. -/
def cellLines (cell : String) : List (List Char) :=
  Text.split '\n' cell.toList

/- The width of the widest line of a cell. -/
def cellWidth (cell : String) : Nat :=
  ((cellLines cell).map Text.width).foldl max 0

/- A line with spaces behind it up to a width. -/
def padded (width : Nat) (line : List Char) : List Char :=
  line ++ List.replicate (width - Text.width line) ' '

/- The widths that the columns have, as far as one row tells. -/
def widen (widths : List Nat) (row : List String) : List Nat :=
  List.zipWith max widths (row.map cellWidth)

/- The widths of the columns. -/
def widths (t : Table) : List Nat :=
  t.rows.foldl widen (t.header.map cellWidth)

------------------------------------------------------------
-- Lines
------------------------------------------------------------

/- A line of text between the borders. -/
def bordered (widths : List Nat) (parts : List (List Char)) : String :=
  let cells :=
    List.zipWith (fun width part => ' ' :: padded width part ++ [' '])
      widths parts
  String.ofList ('|' :: [' '].intercalate cells ++ ['|'])

/- The line of a row at some height, blank where a cell has ended. -/
def lineAt
    (widths : List Nat)
    (row : List String)
    (height : Nat) : String :=
  bordered widths (row.map (fun cell => (cellLines cell).getD height []))

/- The number of lines of a row. -/
def rowHeight (row : List String) : Nat :=
  (row.map (fun cell => (cellLines cell).length)).foldl max 0

/- The lines of a row. -/
def rowLines (widths : List Nat) (row : List String) : List String :=
  (List.range (rowHeight row)).map (lineAt widths row)

/- The number of characters between the outermost borders. -/
def innerWidth (widths : List Nat) : Nat :=
  (widths.map (· + 2)).foldl (· + ·) 0 + (widths.length - 1)

/- A line of one character between two corners. -/
def rule (corner : Char) (c : Char) (widths : List Nat) : String :=
  String.ofList
    (corner :: List.replicate (innerWidth widths) c ++ [corner])

/- The lines of rows with a blank line between two of them. -/
def bodyLines (widths : List Nat) (rows : List (List String)) :
    List String :=
  [rule '|' ' ' widths].intercalate (rows.map (rowLines widths))

/- The lines of a table. -/
def lines (t : Table) : List String :=
  let ws := t.widths
  [rule '+' '-' ws] ++ rowLines ws t.header ++ [rule '+' '=' ws]
    ++ bodyLines ws t.rows
    ++ [rule '+' '-' ws]

/- The text of a table. -/
def render (t : Table) : String :=
  String.intercalate "\n" t.lines

end Table

end Remit
