import Remit.Import.Csv
import Remit.Stored.Payment

/-
  This file reads recipients from JSON files: a list of rows, or
  an object that holds such a list.

  Key definitions include:
    * `Import.mostDepth`
    * `Import.rowsOfTree?`
    * `Import.ofJson`
-/

namespace Remit.Import

open Json

/- The most lists and objects within each other. -/
def mostDepth : Nat :=
  127

/- The rows of a list, or of the list that an object holds. -/
def rowsOfTree? (t : Tree) : Option (List ImportRow) :=
  match t with
  | .list _ => t.mapList? ImportRow.ofTree?
  | .object _ => do
      let r ← t.record? ["recipients"]
      r.required? "recipients" (Tree.mapList? ImportRow.ofTree?)
  | _ => none

/- The rows of a document that is not nested too deeply. -/
def rowsOfDocument? (d : Document) : Option (List ImportRow) :=
  if d.depth ≤ mostDepth ∧ d.tree.isProper = true then
    rowsOfTree? d.tree
  else
    none

/- A row with its number, trimmed where blanks mean nothing. -/
def settled (r : ImportRow) (number : Nat) : ImportRow :=
  { r with
    number := number
    address := Text.trim r.address
    amount := Text.trim r.amount }

/- The rows of a JSON file. -/
def ofJson (source : String) (bytes : Bytes) :
    Except ImportError (List ImportRow) := do
  checkSize source bytes
  match (Document.ofBytes? (dropMark bytes)).bind rowsOfDocument? with
  | none => .error (.documentUnreadable source)
  | some rows =>
      if mostRows < rows.length then
        .error (.tooManyRows mostRows)
      else
        return (rows.zipIdx 1).map (fun entry => settled entry.1 entry.2)

end Remit.Import
