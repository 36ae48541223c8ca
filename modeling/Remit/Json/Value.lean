import Remit.Text.Numeral

/-
  This file defines the JSON values that are written, and their
  texts: compact, or laid out over lines with sorted keys.

  Key definitions include:
    * `Json.Value`
    * `Json.Value.record`
    * `Json.Value.get?`
    * `Json.Value.compact`
    * `Json.Value.pretty`
-/

namespace Remit.Json

------------------------------------------------------------
-- Values
------------------------------------------------------------

/- What is written as JSON: there are no fractions. -/
inductive Value where
| null
| bool (b : Bool)
| integer (n : Int)
| text (s : String)
| list (items : List Value)
| object (fields : List (String × Value))
deriving Repr

instance : Inhabited Value :=
  ⟨.null⟩

namespace Value

/- A natural number. -/
def natural (n : Nat) : Value :=
  .integer n

/- Null for nothing, and otherwise the value of what is there. -/
def nullable {α : Type} (write : α → Value) : Option α → Value
| none => .null
| some x => write x

/- A list of values. -/
def ofList {α : Type} (write : α → Value) (xs : List α) : Value :=
  .list (xs.map write)

/- Put a field in its place among fields with rising keys. -/
def insertField (key : String) (value : Value) :
    List (String × Value) → List (String × Value)
| [] => [(key, value)]
| (k, v) :: fields =>
    if key < k then
      (key, value) :: (k, v) :: fields
    else if key = k then
      (key, value) :: fields
    else
      (k, v) :: insertField key value fields

/- An object whose keys rise; the last value of a repeated key counts. -/
def record (fields : List (String × Value)) : Value :=
  .object (fields.foldl (fun done f => insertField f.1 f.2 done) [])

/- The value at a key of an object. -/
def get? (key : String) : Value → Option Value
| .object fields => (fields.find? (fun f => f.1 == key)).map Prod.snd
| _ => none

/- An object with more fields, which replace those of the same key. -/
def extend (fields : List (String × Value)) : Value → Value
| .object old =>
    .object (fields.foldl (fun done f => insertField f.1 f.2 done) old)
| other => other

------------------------------------------------------------
-- Texts
------------------------------------------------------------

/- The lower hexadecimal digit of a number below sixteen. -/
def hexDigit (n : Nat) : Char :=
  Nat.digitChar n

/- A character within quotation marks. -/
def escape (c : Char) : List Char :=
  match c with
  | '"' => ['\\', '"']
  | '\\' => ['\\', '\\']
  | '\x08' => ['\\', 'b']
  | '\x0c' => ['\\', 'f']
  | '\n' => ['\\', 'n']
  | '\r' => ['\\', 'r']
  | '\t' => ['\\', 't']
  | _ =>
      if c.toNat < 0x20 then
        ['\\', 'u', '0', '0', hexDigit (c.toNat / 16),
          hexDigit (c.toNat % 16)]
      else
        [c]

/- A text within quotation marks. -/
def quote (s : String) : String :=
  "\"" ++ String.ofList (s.toList.flatMap escape) ++ "\""

/- The text of a value that holds no others. -/
def atom : Value → String
| .bool true => "true"
| .bool false => "false"
| .integer n => Numeral.ofInt n
| .text s => quote s
| _ => "null"

/- Texts with a separator between them, between two marks. -/
def enclosed
    (start : String)
    (separator : String)
    (finish : String)
    (parts : List String) : String :=
  start ++ String.intercalate separator parts ++ finish

mutual

/- The text of a value on one line without spaces. -/
def compact : Value → String
| .list items => enclosed "[" "," "]" (compactItems items)
| .object fields => enclosed "\x7b" "," "\x7d" (compactFields fields)
| .null => atom .null
| .bool b => atom (.bool b)
| .integer n => atom (.integer n)
| .text s => atom (.text s)

/- The texts of items. -/
def compactItems : List Value → List String
| [] => []
| v :: vs => v.compact :: compactItems vs

/- The texts of fields. -/
def compactFields : List (String × Value) → List String
| [] => []
| (key, v) :: fields =>
    (quote key ++ ":" ++ v.compact) :: compactFields fields

end

/- A new line at a depth, two spaces for each level. -/
def newline (depth : Nat) : String :=
  String.ofList ('\n' :: List.replicate (2 * depth) ' ')

/- Parts on lines of their own, between two marks. -/
def block
    (depth : Nat)
    (start : String)
    (finish : String)
    (parts : List String) : String :=
  if parts.isEmpty then
    start ++ finish
  else
    enclosed (start ++ newline (depth + 1))
      ("," ++ newline (depth + 1))
      (newline depth ++ finish)
      parts

mutual

/- The text of a value over several lines, at a depth. -/
def layout (depth : Nat) : Value → String
| .list items => block depth "[" "]" (layoutItems (depth + 1) items)
| .object fields =>
    block depth "\x7b" "\x7d" (layoutFields (depth + 1) fields)
| .null => atom .null
| .bool b => atom (.bool b)
| .integer n => atom (.integer n)
| .text s => atom (.text s)

/- The texts of items at a depth. -/
def layoutItems (depth : Nat) : List Value → List String
| [] => []
| v :: vs => v.layout depth :: layoutItems depth vs

/- The texts of fields at a depth. -/
def layoutFields (depth : Nat) : List (String × Value) → List String
| [] => []
| (key, v) :: fields =>
    (quote key ++ ": " ++ v.layout depth) :: layoutFields depth fields

end

/- The text of a value over several lines. -/
def pretty (v : Value) : String :=
  v.layout 0

end Value

end Remit.Json
