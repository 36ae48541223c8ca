import Remit.Text.Numeral

/-
  This file defines the numbers that a JSON text can hold, as
  they are written, and what they denote: a 64-bit integer, or
  something else that may be too large to be a number at all.

  Key definitions include:
    * `Json.Number`
    * `Json.Number.read?`
    * `Json.Number.integer?`
    * `Json.Number.IsFinite`
-/

namespace Remit.Json

/- The parts of a written number. -/
structure Number where
  negative : Bool
  whole : List Char
  fraction : Option (List Char)
  exponent : Option (Bool × List Char)
deriving DecidableEq, Repr

namespace Number

------------------------------------------------------------
-- Reading
------------------------------------------------------------

/- The digits at the start, and what follows them. -/
def spanDigits (cs : List Char) : List Char × List Char :=
  (cs.takeWhile Char.isDigit, cs.dropWhile Char.isDigit)

/- At least one digit; a zero in front must stand alone. -/
def IsWhole (cs : List Char) : Prop :=
  cs ≠ [] ∧ (cs.head? = some '0' → cs = ['0'])

instance (cs : List Char) : Decidable (IsWhole cs) := by
  unfold IsWhole
  infer_instance

/- The digits after a point, if one comes first. -/
def readFraction? (cs : List Char) :
    Option (Option (List Char) × List Char) :=
  match cs with
  | '.' :: rest =>
      let (digits, rest) := spanDigits rest
      if digits = [] then none else some (some digits, rest)
  | _ => some (none, cs)

/-
  The exponent, whether it is negative and its digits; it must
  be the end of the number.
-/
def readExponent? (cs : List Char) : Option (Option (Bool × List Char)) :=
  match cs with
  | [] => some none
  | mark :: rest =>
      if mark = 'e' ∨ mark = 'E' then
        let (negative, digits) :=
          match rest with
          | '-' :: digits => (true, digits)
          | '+' :: digits => (false, digits)
          | _ => (false, rest)
        if digits ≠ [] ∧ Numeral.IsDigits digits then
          some (some (negative, digits))
        else
          none
      else
        none

/- The number that the characters write. -/
def read? (cs : List Char) : Option Number := do
  let (negative, cs) :=
    match cs with
    | '-' :: rest => (true, rest)
    | _ => (false, cs)
  let (whole, cs) := spanDigits cs
  let (fraction, cs) ← readFraction? cs
  let exponent ← readExponent? cs
  if IsWhole whole then
    some ⟨negative, whole, fraction, exponent⟩
  else
    none

------------------------------------------------------------
-- Meaning
------------------------------------------------------------

/- The most digits that a 64-bit number can have. -/
def mostDigits : Nat :=
  20

/-
  The integer that is written without fraction and exponent, if
  a signed or an unsigned word holds it. Minus zero is none.
-/
def integer? (n : Number) : Option Int :=
  if n.fraction.isSome ∨ n.exponent.isSome
      ∨ mostDigits < n.whole.length then
    none
  else
    let value := Numeral.value n.whole
    if n.negative then
      if 0 < value ∧ value ≤ Numeral.signedBound then
        some (-(value : Int))
      else
        none
    else
      if value ≤ Numeral.wordMax then some value else none

/-
  Digits are collected as long as a word holds their value. The
  count tells how many were left over.
-/
def collect (start : Nat) : List Char → Nat × List Char
| [] => (start, [])
| c :: cs =>
    let next := start * 10 + (c.toNat - '0'.toNat)
    if next ≤ Numeral.wordMax then
      collect next cs
    else
      (start, c :: cs)

/- The digits that count, and the power of ten they are scaled by. -/
def scaled (n : Number) : Nat × Int :=
  let fraction := n.fraction.getD []
  let (head, left) := collect 0 n.whole
  if left = [] then
    let (all, rest) := collect head fraction
    (all, -((fraction.length - rest.length : Nat) : Int))
  else
    (head, left.length)

/- A number rounded to the nearest with 53 binary digits, ties to even. -/
def round53 (n : Nat) : Nat :=
  let spare := (Nat.log2 n + 1) - 53
  let unit := Nat.pow 2 spare
  let low := n / unit
  let rest := n % unit
  if unit < 2 * rest ∨ (2 * rest = unit ∧ low % 2 = 1) then
    (low + 1) * unit
  else
    low * unit

/- The first number that rounds to more than any binary64 number. -/
def tooLarge : Nat :=
  Nat.pow 2 1024 - Nat.pow 2 970

/- The exponent as it is written; a huge one stands for any huge one. -/
def exponentValue (n : Number) : Int :=
  match n.exponent with
  | none => 0
  | some (negative, digits) =>
      let digits := digits.dropWhile (· == '0')
      let value : Int :=
        if 10 < digits.length then
          10000000000
        else
          (Numeral.value digits : Nat)
      if negative then -value else value

/-
  A number is finite when a binary64 number can stand for it,
  the digits that count and the power of ten being rounded each
  on its own and then their product.
-/
def IsFinite (n : Number) : Prop :=
  let (digits, power) := n.scaled
  let power := power + n.exponentValue
  digits = 0 ∨
    (power ≤ 308 ∧
      round53 digits * round53 (Nat.pow 10 power.toNat) < tooLarge)

instance (n : Number) : Decidable n.IsFinite := by
  unfold IsFinite
  infer_instance

end Number

end Remit.Json
