import Remit.Bytes.Utf8
import Remit.Json.Number

/-
  This file cuts the bytes of a JSON text into tokens. The text
  is read byte by byte; a word, a number or a quotation is
  collected first and understood when it ends.

  Key definitions include:
    * `Json.Token`
    * `Json.Quoted.read?`
    * `Json.Lexer`
    * `Json.Token.ofBytes?`
-/

namespace Remit.Json

------------------------------------------------------------
-- Quotations
------------------------------------------------------------

namespace Quoted

/- The value of a hexadecimal digit. -/
def hex? (b : UInt8) : Option Nat :=
  let n := b.toNat
  if 0x30 ≤ n ∧ n ≤ 0x39 then
    some (n - 0x30)
  else if 0x41 ≤ n ∧ n ≤ 0x46 then
    some (n - 0x41 + 10)
  else if 0x61 ≤ n ∧ n ≤ 0x66 then
    some (n - 0x61 + 10)
  else
    none

/- The value of four hexadecimal digits. -/
def unit?
    (a : UInt8)
    (b : UInt8)
    (c : UInt8)
    (d : UInt8) : Option Nat := do
  let a ← hex? a
  let b ← hex? b
  let c ← hex? c
  let d ← hex? d
  some (((a * 16 + b) * 16 + c) * 16 + d)

/- The byte that a short escape stands for. -/
def short? (b : UInt8) : Option UInt8 :=
  match Char.ofUInt8 b with
  | '"' => some b
  | '\\' => some b
  | '/' => some b
  | 'b' => some 0x08
  | 'f' => some 0x0c
  | 'n' => some 0x0a
  | 'r' => some 0x0d
  | 't' => some 0x09
  | _ => none

/- The first halves of surrogate pairs. -/
def IsHigh (unit : Nat) : Prop :=
  0xd800 ≤ unit ∧ unit < 0xdc00

instance (unit : Nat) : Decidable (IsHigh unit) := by
  unfold IsHigh
  infer_instance

/- The second halves of surrogate pairs. -/
def IsLow (unit : Nat) : Prop :=
  0xdc00 ≤ unit ∧ unit < 0xe000

instance (unit : Nat) : Decidable (IsLow unit) := by
  unfold IsLow
  infer_instance

/- The character of a surrogate pair. -/
def pair (high : Nat) (low : Nat) : Char :=
  Char.ofNat (0x10000 + (high - 0xd800) * 0x400 + (low - 0xdc00))

/- Put the bytes of a character in front of reversed bytes. -/
def push (c : Char) (done : Bytes) : Bytes :=
  (String.utf8EncodeChar c).reverse ++ done

/-
  What has been read of a quotation: the bytes so far, latest
  first; whether all of them are proper; and the first half of
  a surrogate pair that waits for the second.
-/
structure Progress where
  done : Bytes
  proper : Bool
  high : Option Nat
deriving DecidableEq, Repr

namespace Progress

/- A half that waits for the other was not followed by it. -/
def settle (p : Progress) : Progress where
  done := p.done
  proper := p.proper && p.high.isNone
  high := none

/- A byte follows. -/
def byte (p : Progress) (b : UInt8) : Progress :=
  { p.settle with done := b :: p.settle.done }

/- An escaped code unit follows. -/
def codeUnit (p : Progress) (unit : Nat) : Progress :=
  match p.high with
  | some high =>
      if IsLow unit then
        { p with done := push (pair high unit) p.done, high := none }
      else if IsHigh unit then
        { p.settle with high := some unit }
      else
        { p.settle with done := push (Char.ofNat unit) p.done }
  | none =>
      if IsHigh unit then
        { p with high := some unit }
      else if IsLow unit then
        { p with proper := false }
      else
        { p with done := push (Char.ofNat unit) p.done }

end Progress

/-
  Replace the escapes by the bytes of what they stand for.
  Control characters and unknown escapes are refused.
-/
def unescape (p : Progress) : Bytes → Option Progress
| [] => some p.settle
| 0x5c :: 0x75 :: a :: b :: c :: d :: rest =>
    match unit? a b c d with
    | none => none
    | some unit => unescape (p.codeUnit unit) rest
| 0x5c :: b :: rest =>
    match short? b with
    | none => none
    | some x => unescape (p.byte x) rest
| b :: rest =>
    if b = 0x5c ∨ b < 0x20 then
      none
    else
      unescape (p.byte b) rest

/-
  What stands between quotation marks: nothing if it is not
  well formed, and otherwise its text, if it is one.
-/
def read? (bytes : Bytes) : Option (Option String) :=
  match unescape ⟨[], true, none⟩ bytes with
  | none => none
  | some p =>
      if p.proper then
        some (Utf8.decode? p.done.reverse)
      else
        some none

end Quoted

------------------------------------------------------------
-- Tokens
------------------------------------------------------------

/- The smallest meaningful parts of a JSON text. -/
inductive Token where
| openList
| closeList
| openObject
| closeObject
| colon
| comma
| null
| bool (b : Bool)
| number (n : Number)
| quoted (s : Option String)
deriving DecidableEq, Repr

namespace Token

/- The token of a single punctuation mark. -/
def ofMark? (b : UInt8) : Option Token :=
  match Char.ofUInt8 b with
  | '[' => some openList
  | ']' => some closeList
  | '\x7b' => some openObject
  | '\x7d' => some closeObject
  | ':' => some colon
  | ',' => some comma
  | _ => none

/- The token of a word. -/
def ofWord? (bytes : Bytes) : Option Token :=
  match String.ofList (bytes.map Char.ofUInt8) with
  | "null" => some null
  | "true" => some (bool true)
  | "false" => some (bool false)
  | _ => none

/- The token of a written number. -/
def ofDigits? (bytes : Bytes) : Option Token :=
  (Number.read? (bytes.map Char.ofUInt8)).map number

/- The token of a quotation. -/
def ofQuoted? (bytes : Bytes) : Option Token :=
  (Quoted.read? bytes).map quoted

end Token

------------------------------------------------------------
-- The Lexer
------------------------------------------------------------

/- What is being collected; the latest byte stands first. -/
inductive Lexeme where
| nothing
| word (bytes : Bytes)
| digits (bytes : Bytes)
| quoted (bytes : Bytes)
| escaped (bytes : Bytes)
deriving DecidableEq, Repr

/- The tokens so far, the latest first, and what is being collected. -/
structure Lexer where
  done : List Token
  lexeme : Lexeme
deriving DecidableEq, Repr

namespace Lexer

/- The white space of JSON. -/
def IsSpace (b : UInt8) : Prop :=
  b = 0x20 ∨ b = 0x0a ∨ b = 0x0d ∨ b = 0x09

instance (b : UInt8) : Decidable (IsSpace b) := by
  unfold IsSpace
  infer_instance

/- The letters of the words. -/
def IsLetter (b : UInt8) : Prop :=
  0x61 ≤ b ∧ b ≤ 0x7a

instance (b : UInt8) : Decidable (IsLetter b) := by
  unfold IsLetter
  infer_instance

/- The bytes that start a number. -/
def IsDigit (b : UInt8) : Prop :=
  (0x30 ≤ b ∧ b ≤ 0x39) ∨ b = 0x2d

instance (b : UInt8) : Decidable (IsDigit b) := by
  unfold IsDigit
  infer_instance

/- The bytes that carry a number on. -/
def IsNumeric (b : UInt8) : Prop :=
  IsDigit b ∨ b = 0x2b ∨ b = 0x2e ∨ b = 0x65 ∨ b = 0x45

instance (b : UInt8) : Decidable (IsNumeric b) := by
  unfold IsNumeric
  infer_instance

/- Read a byte while nothing is being collected. -/
def start (done : List Token) (b : UInt8) : Option Lexer :=
  if IsSpace b then
    some ⟨done, .nothing⟩
  else if b = 0x22 then
    some ⟨done, .quoted []⟩
  else if IsDigit b then
    some ⟨done, .digits [b]⟩
  else if IsLetter b then
    some ⟨done, .word [b]⟩
  else
    (Token.ofMark? b).map (fun t => ⟨t :: done, .nothing⟩)

/- Read one byte. -/
def step (x : Lexer) (b : UInt8) : Option Lexer :=
  match x.lexeme with
  | .nothing => start x.done b
  | .word bytes =>
      if IsLetter b then
        some ⟨x.done, .word (b :: bytes)⟩
      else do
        let t ← Token.ofWord? bytes.reverse
        start (t :: x.done) b
  | .digits bytes =>
      if IsNumeric b then
        some ⟨x.done, .digits (b :: bytes)⟩
      else do
        let t ← Token.ofDigits? bytes.reverse
        start (t :: x.done) b
  | .quoted bytes =>
      if b = 0x22 then do
        let t ← Token.ofQuoted? bytes.reverse
        some ⟨t :: x.done, .nothing⟩
      else if b = 0x5c then
        some ⟨x.done, .escaped (b :: bytes)⟩
      else
        some ⟨x.done, .quoted (b :: bytes)⟩
  | .escaped bytes => some ⟨x.done, .quoted (b :: bytes)⟩

/- Read all bytes, unless one of them is refused. -/
def run (x : Lexer) : Bytes → Option Lexer
| [] => some x
| b :: bytes =>
    match x.step b with
    | none => none
    | some next => run next bytes

/- The tokens in order, once a space has ended the last one. -/
def tokens? (x : Lexer) : Option (List Token) := do
  let x ← x.step 0x20
  match x.lexeme with
  | .nothing => some x.done.reverse
  | _ => none

end Lexer

/- The tokens of a JSON text. -/
def Token.ofBytes? (bytes : Bytes) : Option (List Token) := do
  let x ← Lexer.run ⟨[], .nothing⟩ bytes
  x.tokens?

end Remit.Json
