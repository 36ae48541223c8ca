/-
  This file defines the UTF-8 form of a text and the text that
  bytes spell. Only the shortest form of a character is read,
  and no surrogates.

  Key definitions include:
    * `Bytes`
    * `Utf8.encode`
    * `Utf8.decode?`
-/

namespace Remit

/- The contents of a memo or of a file. -/
abbrev Bytes : Type :=
  List UInt8

namespace Utf8

/- The bytes that spell a text. -/
def encode (s : String) : Bytes :=
  s.toList.flatMap String.utf8EncodeChar

/- The six low bits of a byte that continues a character. -/
def continuation? (b : UInt8) : Option Nat :=
  if 0x80 ≤ b ∧ b < 0xc0 then
    some (b.toNat - 0x80)
  else
    none

/-
  The character with a code point, if the point is at least
  `least` and not a surrogate.
-/
def character? (least : Nat) (point : Nat) : Option Char :=
  if h : point.isValidChar then
    if least ≤ point then
      some (Char.ofNatAux point h)
    else
      none
  else
    none

/- The character spelled by two bytes. -/
def two? (a : UInt8) (b : UInt8) : Option Char := do
  let low ← continuation? b
  character? 0x80 ((a.toNat - 0xc0) * 0x40 + low)

/- The character spelled by three bytes. -/
def three? (a : UInt8) (b : UInt8) (c : UInt8) : Option Char := do
  let middle ← continuation? b
  let low ← continuation? c
  character? 0x800 (((a.toNat - 0xe0) * 0x40 + middle) * 0x40 + low)

/- The character spelled by four bytes. -/
def four?
    (a : UInt8)
    (b : UInt8)
    (c : UInt8)
    (d : UInt8) : Option Char := do
  let upper ← continuation? b
  let middle ← continuation? c
  let low ← continuation? d
  character? 0x10000
    ((((a.toNat - 0xf0) * 0x40 + upper) * 0x40 + middle) * 0x40 + low)

/-
  Read characters off the bytes. Those read so far stand in
  `done`, the latest first.
-/
def readFrom (done : List Char) : Bytes → Option (List Char)
| [] => some done.reverse
| a :: rest =>
    if a < 0x80 then
      readFrom (Char.ofUInt8 a :: done) rest
    else if a < 0xc0 then
      none
    else if a < 0xe0 then
      match rest with
      | b :: rest =>
          match two? a b with
          | some x => readFrom (x :: done) rest
          | none => none
      | _ => none
    else if a < 0xf0 then
      match rest with
      | b :: c :: rest =>
          match three? a b c with
          | some x => readFrom (x :: done) rest
          | none => none
      | _ => none
    else if a < 0xf8 then
      match rest with
      | b :: c :: d :: rest =>
          match four? a b c d with
          | some x => readFrom (x :: done) rest
          | none => none
      | _ => none
    else
      none

/- The text that bytes spell, if they spell one. -/
def decode? (bytes : Bytes) : Option String :=
  (readFrom [] bytes).map String.ofList

end Utf8

end Remit
