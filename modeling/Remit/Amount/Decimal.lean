import Remit.Amount.Basic
import Remit.Text.Blank
import Remit.Text.Search

/-
  This file reads and writes amounts as decimal texts. Reading
  is exact, or rounds down to the smallest unit; writing uses as
  few places as needed, or always all of them.

  Key definitions include:
    * `Amount.Decimal`
    * `Amount.Decimal.read`
    * `Amount.Decimal.amount`
    * `Amount.ofText`
    * `Amount.floorOfText`
    * `Amount.shortText`
    * `Amount.fixedText`
-/

namespace Remit.Amount

------------------------------------------------------------
-- Reading
------------------------------------------------------------

/- The digits before and after the point of a decimal number. -/
structure Decimal where
  whole : List Char
  fraction : List Char
deriving DecidableEq, Repr

namespace Decimal

/-
  Split trimmed characters at the point. They must not start
  with a minus sign, must have at most one point and at least
  one character besides it, and all else must be digits; the
  first of these that fails is reported.
-/
def read (cs : List Char) : Except AmountError Decimal :=
  if cs = [] then
    .error .emptyInput
  else if cs.head? = some '-' then
    .error .negative
  else
    let parts := Text.split '.' cs
    let whole := parts.headD []
    let fraction := parts.tail.headD []
    if 2 < parts.length ∨ (whole = [] ∧ fraction = []) then
      .error .malformed
    else if Numeral.IsDigits whole ∧ Numeral.IsDigits fraction then
      .ok ⟨whole, fraction⟩
    else
      .error .nonNumeric

/- The digits after the point, with zeros up to all places. -/
def filled (d : Decimal) : List Char :=
  d.fraction ++ List.replicate (places - d.fraction.length) '0'

/- The units of a decimal number that has no more than all places. -/
def units (d : Decimal) : Nat :=
  Numeral.value d.whole * unitsPerCoin + Numeral.value d.filled

/-
  The amount of a decimal number that has no more than all
  places. Too many whole coins are an overflow by themselves.
-/
def amount (d : Decimal) : Except AmountError Amount :=
  match Numeral.within? Numeral.wordMax d.whole with
  | none => .error .overflow
  | some whole =>
      ofUnits (whole * unitsPerCoin + Numeral.value d.filled)

/- The decimal number with the places after the last one dropped. -/
def truncated (d : Decimal) : Decimal where
  whole := d.whole
  fraction := d.fraction.take places

/- The amount of a decimal number is that of its units. -/
theorem amount_eq
    (d : Decimal) :
    d.amount = ofUnits d.units := by
  unfold amount units
  rw [Numeral.within?_eq]
  by_cases h : Numeral.value d.whole ≤ Numeral.wordMax
  · simp [Option.filter, h]
  · have hWord :
        Numeral.wordMax < Numeral.value d.whole * unitsPerCoin
          + Numeral.value d.filled := by
      have hCoin : 1 ≤ unitsPerCoin := by decide
      have hWhole := Nat.le_mul_of_pos_right (Numeral.value d.whole) hCoin
      omega
    simp [Option.filter, h, ofUnits, hWord]

end Decimal

/- The amount that a text denotes exactly. -/
def ofText (s : String) : Except AmountError Amount :=
  match Decimal.read (Text.trimList s.toList) with
  | .error e => .error e
  | .ok d =>
      if places < d.fraction.length then
        .error (.tooManyDecimals d.fraction.length)
      else
        d.amount

/- The largest amount not above what a text denotes. -/
def floorOfText (s : String) : Except AmountError Amount :=
  match Decimal.read (Text.trimList s.toList) with
  | .error e => .error e
  | .ok d => d.truncated.amount

------------------------------------------------------------
-- Writing
------------------------------------------------------------

/- The characters without the zeros at their end. -/
def dropZeros (cs : List Char) : List Char :=
  (cs.reverse.dropWhile (· == '0')).reverse

/- The places of an amount, all of them. -/
def fractionDigits (a : Amount) : List Char :=
  Numeral.padded places (a.units % unitsPerCoin)

/- The whole coins of an amount. -/
def wholeDigits (a : Amount) : List Char :=
  Numeral.digits (a.units / unitsPerCoin)

/- The shortest text of an amount. -/
def shortText (a : Amount) : String :=
  if a.units % unitsPerCoin = 0 then
    String.ofList a.wholeDigits
  else
    String.ofList
      (a.wholeDigits ++ '.' :: dropZeros a.fractionDigits)

/- The text of an amount with all places. -/
def fixedText (a : Amount) : String :=
  String.ofList (a.wholeDigits ++ '.' :: a.fractionDigits)

end Remit.Amount
