import Remit.Amount.Basic

/-
  This file defines the arithmetic of amounts as it is carried
  out on machine words. An amount is one word, and products are
  worked out in double words before they are narrowed. Where a
  plain addition, multiplication or division would wrap around
  or stop the machine, there is no result.

  Key definitions include:
    * `Machine.add?`, `Machine.mul?`, `Machine.div?`
    * `Machine.addStopped`, `Machine.mulStopped`
    * `Machine.narrow?`
    * `Machine.add`
    * `Machine.sum`
    * `Machine.scaleFloor`
    * `Machine.scaleRound`
    * `Amount.word`
-/

namespace Remit

/- A word of 64 bits, without a sign. -/
abbrev Word : Type :=
  BitVec 64

/- A word of 128 bits, without a sign. -/
abbrev DoubleWord : Type :=
  BitVec 128

/- The word of an amount, which is a count of units. -/
def Amount.word (a : Amount) : Word :=
  BitVec.ofNat 64 a.units

namespace Machine

------------------------------------------------------------
-- Words of Any Width
------------------------------------------------------------

variable {width : Nat}

/- The sum of two words, unless it would wrap around. -/
def add? (x : BitVec width) (y : BitVec width) :
    Option (BitVec width) :=
  if x.uaddOverflow y then none else some (x + y)

/- The product of two words, unless it would wrap around. -/
def mul? (x : BitVec width) (y : BitVec width) :
    Option (BitVec width) :=
  if x.umulOverflow y then none else some (x * y)

/- The quotient of two words, unless the second one is zero. -/
def div? (x : BitVec width) (y : BitVec width) :
    Option (BitVec width) :=
  if y = 0 then none else some (x / y)

/- The sum of two words, stopped at the greatest word. -/
def addStopped (x : BitVec width) (y : BitVec width) : BitVec width :=
  (add? x y).getD (BitVec.allOnes width)

/- The product of two words, stopped at the greatest word. -/
def mulStopped (x : BitVec width) (y : BitVec width) : BitVec width :=
  (mul? x y).getD (BitVec.allOnes width)

/- The difference of two words, stopped at zero. -/
def subStopped (x : BitVec width) (y : BitVec width) : BitVec width :=
  if x.usubOverflow y then 0 else x - y

/- A word as a double word. -/
def widen (x : Word) : DoubleWord :=
  x.setWidth 128

/- A double word as a word, if it fits. -/
def narrow? (x : DoubleWord) : Option Word :=
  if x ≤ widen (BitVec.allOnes 64) then some (x.setWidth 64) else none

------------------------------------------------------------
-- Words Within the Supply
------------------------------------------------------------

/- The whole supply. -/
def supply : Word :=
  Amount.supply.word

/- A word is an amount unless it exceeds the supply. -/
def checked (x : Word) : Except AmountError Word :=
  if supply < x then .error (.aboveMaximum x.toNat) else .ok x

/- A word, or the supply if the word exceeds it. -/
def capped (x : Word) : Word :=
  if supply < x then supply else x

/- The amount that a word has come to, if it fits. -/
def fitted : Option Word → Except AmountError Word
| none => .error .overflow
| some x => checked x

------------------------------------------------------------
-- Arithmetic
------------------------------------------------------------

/- The sum of two amounts, if it is an amount. -/
def add (x : Word) (y : Word) : Except AmountError Word :=
  fitted (add? x y)

/- The sum of two amounts, stopped at the supply. -/
def addCapped (x : Word) (y : Word) : Word :=
  capped (addStopped x y)

/- A multiple of an amount, stopped at the supply. -/
def mulCapped (x : Word) (factor : Word) : Word :=
  capped (mulStopped x factor)

/- The sum of amounts from left to right, if each sum is an amount. -/
def sum (xs : List Word) : Except AmountError Word :=
  xs.foldlM add 0

/- An amount times a ratio, rounded down. -/
def scaleFloor (x : Word) (numer : Word) (denom : Word) :
    Option (Except AmountError Word) :=
  if denom = 0 then
    some (.error .malformed)
  else do
    let product ← mul? (widen x) (widen numer)
    let quotient ← div? product (widen denom)
    return fitted (narrow? quotient)

/-
  An amount times a ratio, rounded to the nearest: half of the
  denominator, rounded down itself, is added to the product.
-/
def scaleRound (x : Word) (numer : Word) (denom : Word) :
    Option (Except AmountError Word) :=
  if denom = 0 then
    some (.error .malformed)
  else do
    let product ← mul? (widen x) (widen numer)
    let half ← div? (widen denom) 2
    let raised ← add? product half
    let quotient ← div? raised (widen denom)
    return fitted (narrow? quotient)

end Machine

end Remit
