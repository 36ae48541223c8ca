import Remit.Json.Tree

/-
  This file reads values out of JSON trees. A record is an
  object, whose fields may come in any order among unknown
  ones, or a list of the fields in their declared order.

  Key definitions include:
    * `Json.Tree.text?`
    * `Json.Tree.integer?`
    * `Json.Tree.mapList?`
    * `Json.Tree.choice?`
    * `Json.Record`
    * `Json.Tree.record?`
-/

namespace Remit.Json

namespace Tree

------------------------------------------------------------
-- Single Values
------------------------------------------------------------

/- The text of a quotation. -/
def text? : Tree → Option String
| .quoted s => s
| _ => none

/- The integer of a number between two bounds. -/
def integer? (least : Int) (most : Int) : Tree → Option Int
| .number n => n.integer?.filter (fun i => least ≤ i ∧ i ≤ most)
| _ => none

/- The natural number of a number up to a bound. -/
def natural? (most : Nat) (t : Tree) : Option Nat :=
  (t.integer? 0 most).map Int.toNat

/- The signed 64-bit number of a number. -/
def word? (t : Tree) : Option Int64 :=
  (t.integer? (-Numeral.signedBound) (Numeral.signedBound - 1)).map
    Int64.ofInt

/- What a list holds, if each of its items can be read. -/
def mapList? {α : Type} (read : Tree → Option α) :
    Tree → Option (List α)
| .list items => items.mapM read
| _ => none

/- Nothing for null, and otherwise what can be read. -/
def nullable? {α : Type} (read : Tree → Option α) :
    Tree → Option (Option α)
| .null => some none
| t => (read t).map some

/-
  The choice of a name, written as the name or as an object that
  has null at the name and nothing else.
-/
def choice? {α : Type} (ofName : String → Option α) :
    Tree → Option α
| .quoted (some name) => ofName name
| .object [(some name, .null)] => ofName name
| _ => none

end Tree

------------------------------------------------------------
-- Records
------------------------------------------------------------

/-
  The values found for the declared fields of a record, and
  whether the record was written as a list.
-/
structure Record where
  fields : List (String × Tree)
  positional : Bool
deriving Repr

namespace Record

/- The value found for a field. -/
def get? (r : Record) (name : String) : Option Tree :=
  (r.fields.find? (fun field => field.1 == name)).map Prod.snd

/- A field that must be there. -/
def required? {α : Type}
    (r : Record)
    (name : String)
    (read : Tree → Option α) : Option α :=
  match r.get? name with
  | some t => read t
  | none => none

/- A field that counts as null when an object leaves it out. -/
def optional? {α : Type}
    (r : Record)
    (name : String)
    (read : Tree → Option α) : Option (Option α) :=
  match r.get? name with
  | some t => t.nullable? read
  | none => if r.positional then none else some none

/- A field that has a value of its own when it is left out. -/
def defaulted? {α : Type}
    (r : Record)
    (name : String)
    (value : α)
    (read : Tree → Option α) : Option α :=
  match r.get? name with
  | some t => read t
  | none => some value

/-
  The declared fields among those of an object. All keys must be
  texts, and a declared one must not be repeated.
-/
def ofObject?
    (names : List String)
    (fields : List (Option String × Tree)) : Option Record := do
  let keyed ← fields.mapM (fun field => field.1.map (fun key => (key, field.2)))
  let known := keyed.filter (fun field => names.contains field.1)
  if (known.map Prod.fst).Nodup then
    some ⟨known, false⟩
  else
    none

/- The declared fields in their order; some may be missing at the end. -/
def ofList?
    (names : List String)
    (items : List Tree) : Option Record :=
  if items.length ≤ names.length then
    some ⟨names.zip items, true⟩
  else
    none

end Record

/- The record that a tree holds, with the declared fields. -/
def Tree.record? (names : List String) : Tree → Option Record
| .object fields => Record.ofObject? names fields
| .list items => Record.ofList? names items
| _ => none

end Remit.Json
