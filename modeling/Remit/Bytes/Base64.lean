import Remit.Bytes.Utf8

/-
  This file defines the base64 form of bytes with the standard
  alphabet. Three bytes make four characters; a last group of
  one or two bytes is padded with equal signs. Reading accepts
  only what writing produces.

  Key definitions include:
    * `Base64.digit`
    * `Base64.digit?`
    * `Base64.encodeList`
    * `Base64.encode`
    * `Base64.decodeList`
    * `Base64.decode?`
-/

namespace Remit.Base64

/- The character of a six-bit number. -/
def digit (n : Nat) : Char :=
  if n < 26 then
    Char.ofNat (n + 'A'.toNat)
  else if n < 52 then
    Char.ofNat (n - 26 + 'a'.toNat)
  else if n < 62 then
    Char.ofNat (n - 52 + '0'.toNat)
  else if n = 62 then
    '+'
  else
    '/'

/- The six-bit number of a character of the alphabet. -/
def digit? (c : Char) : Option Nat :=
  if 'A' ≤ c ∧ c ≤ 'Z' then
    some (c.toNat - 'A'.toNat)
  else if 'a' ≤ c ∧ c ≤ 'z' then
    some (c.toNat - 'a'.toNat + 26)
  else if '0' ≤ c ∧ c ≤ '9' then
    some (c.toNat - '0'.toNat + 52)
  else if c = '+' then
    some 62
  else if c = '/' then
    some 63
  else
    none

/- The base64 characters of bytes. -/
def encodeList : Bytes → List Char
| [] => []
| [a] =>
    let n := a.toNat * 0x10
    [digit (n / 0x40), digit (n % 0x40), '=', '=']
| [a, b] =>
    let n := (a.toNat * 0x100 + b.toNat) * 0x4
    [digit (n / 0x1000), digit (n / 0x40 % 0x40),
     digit (n % 0x40), '=']
| a :: b :: c :: rest =>
    let n := (a.toNat * 0x100 + b.toNat) * 0x100 + c.toNat
    digit (n / 0x40000) :: digit (n / 0x1000 % 0x40) ::
      digit (n / 0x40 % 0x40) :: digit (n % 0x40) ::
        encodeList rest

/- The base64 form of bytes. -/
def encode (bytes : Bytes) : String :=
  String.ofList (encodeList bytes)

/- The one byte of two characters; the bits left over are zero. -/
def one? (a : Char) (b : Char) : Option Bytes := do
  let n := (← digit? a) * 0x40 + (← digit? b)
  if n % 0x10 = 0 then
    some [UInt8.ofNat (n / 0x10)]
  else
    none

/- The two bytes of three characters; the bits left over are zero. -/
def two? (a : Char) (b : Char) (c : Char) : Option Bytes := do
  let n := ((← digit? a) * 0x40 + (← digit? b)) * 0x40 + (← digit? c)
  if n % 0x4 = 0 then
    some [UInt8.ofNat (n / 0x400), UInt8.ofNat (n / 0x4)]
  else
    none

/- The three bytes of four characters. -/
def three?
    (a : Char)
    (b : Char)
    (c : Char)
    (d : Char) : Option Bytes := do
  let n :=
    (((← digit? a) * 0x40 + (← digit? b)) * 0x40 + (← digit? c)) * 0x40
      + (← digit? d)
  some [UInt8.ofNat (n / 0x10000), UInt8.ofNat (n / 0x100),
    UInt8.ofNat n]

/- The bytes of base64 characters. -/
def decodeList : List Char → Option Bytes
| [] => some []
| [a, b, '=', '='] => one? a b
| [a, b, c, '='] => two? a b c
| a :: b :: c :: d :: rest => do
    let bytes ← three? a b c d
    let others ← decodeList rest
    some (bytes ++ others)
| _ => none

/- The bytes of a base64 text. -/
def decode? (s : String) : Option Bytes :=
  decodeList s.toList

end Remit.Base64
