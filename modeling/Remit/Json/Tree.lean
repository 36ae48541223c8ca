import Remit.Json.Token

/-
  This file builds the tree of a JSON text from its tokens. The
  lists and objects that are still open stand on a stack, so
  that a text may be nested to any depth; how deep it is nested
  is told with the tree.

  Key definitions include:
    * `Json.Tree`
    * `Json.Builder`
    * `Json.Nesting`
    * `Json.Document`
    * `Json.Document.ofBytes?`
-/

namespace Remit.Json

------------------------------------------------------------
-- Trees
------------------------------------------------------------

/-
  What a JSON text holds. Repeated keys are all kept, and a
  quotation need not be a text.
-/
inductive Tree where
| null
| bool (b : Bool)
| number (n : Number)
| quoted (s : Option String)
| list (items : List Tree)
| object (fields : List (Option String × Tree))
deriving Repr

instance : Inhabited Tree :=
  ⟨.null⟩

mutual

/- All quotations are texts and all numbers finite. -/
def Tree.isProper : Tree → Bool
| .null => true
| .bool _ => true
| .number n => decide n.IsFinite
| .quoted s => s.isSome
| .list items => Tree.areProper items
| .object fields => Tree.areProperFields fields

/- Every item is proper. -/
def Tree.areProper : List Tree → Bool
| [] => true
| t :: ts => t.isProper && Tree.areProper ts

/- Every field has a text for its key and a proper value. -/
def Tree.areProperFields : List (Option String × Tree) → Bool
| [] => true
| (key, t) :: fields =>
    key.isSome && t.isProper && Tree.areProperFields fields

end

------------------------------------------------------------
-- The Builder
------------------------------------------------------------

/- A list or object that is still open; the latest part stands first. -/
inductive Frame where
| items (done : List Tree)
| fields (done : List (Option String × Tree)) (key : Option String)
deriving Repr

/- What may come next. -/
inductive Expected where
| value
| firstItem
| firstKey
| key
| colon
| separator
deriving DecidableEq, Repr

/-
  The open lists and objects, the innermost first; what may come
  next; and the tree once it is whole.
-/
structure Builder where
  stack : List Frame
  expected : Expected
  whole : Option Tree
deriving Repr

namespace Builder

/- Nothing has been read and a value must come. -/
def start : Builder where
  stack := []
  expected := .value
  whole := none

/- A value is whole: it joins what is open, or it is all there is. -/
def place (b : Builder) (t : Tree) : Builder :=
  match b.stack with
  | [] => { b with expected := .separator, whole := some t }
  | .items done :: stack =>
      { b with
        stack := .items (t :: done) :: stack
        expected := .separator }
  | .fields done key :: stack =>
      { b with
        stack := .fields ((key, t) :: done) none :: stack
        expected := .separator }

/- A list or object is opened. -/
def opening (b : Builder) (frame : Frame) (next : Expected) : Builder :=
  { b with
    stack := frame :: b.stack
    expected := next }

/- Read a token that starts a value. -/
def value? (b : Builder) : Token → Option Builder
| .null => some (b.place .null)
| .bool x => some (b.place (.bool x))
| .number n => some (b.place (.number n))
| .quoted s => some (b.place (.quoted s))
| .openList => some (b.opening (.items []) .firstItem)
| .openObject => some (b.opening (.fields [] none) .firstKey)
| _ => none

/- A key, for which a colon and a value must follow. -/
def key? (b : Builder) : Token → Option Builder
| .quoted s =>
    match b.stack with
    | .fields done _ :: stack =>
        some
          { b with
            stack := .fields done s :: stack
            expected := .colon }
    | _ => none
| _ => none

/- The innermost list or object is closed. -/
def close? (b : Builder) (t : Token) : Option Builder :=
  match b.stack, t with
  | .items done :: stack, .closeList =>
      some (place { b with stack := stack } (.list done.reverse))
  | .fields done _ :: stack, .closeObject =>
      some (place { b with stack := stack } (.object done.reverse))
  | _, _ => none

/- A comma within what is open. -/
def comma? (b : Builder) : Option Builder :=
  match b.stack with
  | .items _ :: _ => some { b with expected := .value }
  | .fields _ _ :: _ => some { b with expected := .key }
  | [] => none

/- Read one token. -/
def step (b : Builder) (t : Token) : Option Builder :=
  match b.expected with
  | .value => b.value? t
  | .firstItem => if t = .closeList then b.close? t else b.value? t
  | .firstKey => if t = .closeObject then b.close? t else b.key? t
  | .key => b.key? t
  | .colon =>
      if t = .colon then some { b with expected := .value } else none
  | .separator => if t = .comma then b.comma? else b.close? t

/- Read all tokens, unless one of them is refused. -/
def run (b : Builder) : List Token → Option Builder
| [] => some b
| t :: ts =>
    match b.step t with
    | none => none
    | some next => run next ts

end Builder

------------------------------------------------------------
-- Depth
------------------------------------------------------------

/- How many lists and objects are open, and how many were at once. -/
structure Nesting where
  level : Nat
  most : Nat
deriving DecidableEq, Repr

namespace Nesting

/- Count one token. -/
def step (x : Nesting) (t : Token) : Nesting :=
  match t with
  | .openList => ⟨x.level + 1, max x.most (x.level + 1)⟩
  | .openObject => ⟨x.level + 1, max x.most (x.level + 1)⟩
  | .closeList => ⟨x.level - 1, x.most⟩
  | .closeObject => ⟨x.level - 1, x.most⟩
  | _ => x

/- The greatest depth that tokens reach. -/
def depth (ts : List Token) : Nat :=
  (ts.foldl step ⟨0, 0⟩).most

end Nesting

------------------------------------------------------------
-- Documents
------------------------------------------------------------

/- The tree of a JSON text and the greatest depth of its nesting. -/
structure Document where
  tree : Tree
  depth : Nat
deriving Repr

namespace Document

/- The document of the tokens of a JSON text. -/
def ofTokens? (ts : List Token) : Option Document := do
  let b ← Builder.start.run ts
  let tree ← b.whole
  some ⟨tree, Nesting.depth ts⟩

/- The document that bytes spell. -/
def ofBytes? (bytes : Bytes) : Option Document := do
  let ts ← Token.ofBytes? bytes
  ofTokens? ts

/- The document that a text spells. -/
def ofText? (s : String) : Option Document :=
  ofBytes? (Utf8.encode s)

end Document

end Remit.Json
