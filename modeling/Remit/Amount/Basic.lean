import Remit.Taxonomy
import Remit.Text.Numeral

/-
  This file defines amounts of money: a count of the smallest
  unit that never exceeds the supply. Sums and products either
  stop at the supply or report that they would exceed it.

  Key definitions include:
    * `AmountError`
    * `Amount`
    * `Amount.ofUnits`
    * `Amount.add`
    * `Amount.sum`
    * `Amount.capped`
    * `Ratio`
    * `Amount.scaleFloor`
    * `Amount.scaleRound`
-/

namespace Remit

------------------------------------------------------------
-- Failures
------------------------------------------------------------

/- Why something is not an amount. -/
inductive AmountError where
| emptyInput
| negative
| malformed
| nonNumeric
| tooManyDecimals (places : Nat)
| overflow
| aboveMaximum (units : Nat)
deriving DecidableEq, Repr

namespace AmountError

/- The wording of an amount failure. -/
def message : AmountError → String
| emptyInput => "amount is empty"
| negative => "negative amounts are not allowed"
| malformed => "amount is not a decimal number"
| nonNumeric => "amount contains non-numeric characters"
| tooManyDecimals places =>
    s!"amount has {places} decimal places; at most 8 are supported"
| overflow => "amount arithmetic overflowed"
| aboveMaximum units => s!"amount {units} exceeds the maximum supply"

/- An amount is out of range, or it is no amount at all. -/
def taxonomy : AmountError → Taxonomy
| tooManyDecimals _ => .amountOutOfRange
| overflow => .amountOutOfRange
| aboveMaximum _ => .amountOutOfRange
| _ => .invalidAmount

end AmountError

------------------------------------------------------------
-- Amounts
------------------------------------------------------------

namespace Amount

/- The number of places after the point. -/
def places : Nat :=
  8

/- The smallest units in one whole coin. -/
def unitsPerCoin : Nat :=
  Nat.pow 10 places

/- The supply: no amount has more units. -/
def cap : Nat :=
  200000000 * unitsPerCoin

end Amount

/- An amount is a count of units within the supply. -/
structure Amount where
  units : Nat
  units_le : units ≤ Amount.cap
deriving DecidableEq, Repr

namespace Amount

/- Amounts with the same units are equal. -/
@[ext]
theorem ext
    {a b : Amount}
    (h : a.units = b.units) :
    a = b := by
  cases a
  cases b
  cases h
  rfl

instance : LE Amount where
  le a b := a.units ≤ b.units

instance : LT Amount where
  lt a b := a.units < b.units

instance (a b : Amount) : Decidable (a ≤ b) :=
  inferInstanceAs (Decidable (a.units ≤ b.units))

instance (a b : Amount) : Decidable (a < b) :=
  inferInstanceAs (Decidable (a.units < b.units))

/- No units at all. -/
def zero : Amount :=
  ⟨0, Nat.zero_le _⟩

/- The whole supply. -/
def supply : Amount :=
  ⟨cap, Nat.le_refl _⟩

instance : Inhabited Amount :=
  ⟨zero⟩

/- An amount is zero when it has no units. -/
def IsZero (a : Amount) : Prop :=
  a.units = 0

instance (a : Amount) : Decidable a.IsZero := by
  unfold IsZero
  infer_instance

/-
  The amount of so many units. A count that no 64-bit word
  holds is an overflow; a smaller one may exceed the supply.
-/
def ofUnits (n : Nat) : Except AmountError Amount :=
  if Numeral.wordMax < n then
    .error .overflow
  else if h : n ≤ cap then
    .ok ⟨n, h⟩
  else
    .error (.aboveMaximum n)

/- The amount of so many units, or the supply if they exceed it. -/
def capped (n : Nat) : Amount :=
  ⟨min n cap, Nat.min_le_right _ _⟩

/- The smaller of two amounts. -/
def least (a : Amount) (b : Amount) : Amount :=
  if a ≤ b then a else b

/- The larger of two amounts. -/
def greatest (a : Amount) (b : Amount) : Amount :=
  if a ≤ b then b else a

------------------------------------------------------------
-- Arithmetic
------------------------------------------------------------

/- The sum of two amounts, if it is an amount. -/
def add (a : Amount) (b : Amount) : Except AmountError Amount :=
  ofUnits (a.units + b.units)

/- The sum of two amounts, stopped at the supply. -/
def addCapped (a : Amount) (b : Amount) : Amount :=
  capped (a.units + b.units)

/- The difference of two amounts, stopped at zero. -/
def subFloored (a : Amount) (b : Amount) : Amount :=
  ⟨a.units - b.units, Nat.le_trans (Nat.sub_le _ _) a.units_le⟩

/- A multiple of an amount, stopped at the supply. -/
def mulCapped (a : Amount) (factor : Nat) : Amount :=
  capped (a.units * factor)

/- The sum of amounts from left to right, if each sum is an amount. -/
def sum (amounts : List Amount) : Except AmountError Amount :=
  amounts.foldlM add zero

/- The sum of amounts from left to right, stopped at the supply. -/
def sumCapped (amounts : List Amount) : Amount :=
  amounts.foldl addCapped zero

/- A ratio of two counts; the lower one may be zero. -/
structure Ratio where
  numer : Nat
  denom : Nat
deriving DecidableEq, Repr

/- One half. -/
def Ratio.half : Ratio :=
  ⟨1, 2⟩

/- One. -/
def Ratio.one : Ratio :=
  ⟨1, 1⟩

/- Two. -/
def Ratio.double : Ratio :=
  ⟨2, 1⟩

/- An amount times a ratio, rounded down. -/
def scaleFloor (a : Amount) (r : Ratio) : Except AmountError Amount :=
  if r.denom = 0 then
    .error .malformed
  else
    ofUnits (a.units * r.numer / r.denom)

/- An amount times a ratio, rounded to the nearest, a half upward. -/
def scaleRound (a : Amount) (r : Ratio) : Except AmountError Amount :=
  if r.denom = 0 then
    .error .malformed
  else
    ofUnits ((a.units * r.numer + r.denom / 2) / r.denom)

------------------------------------------------------------
-- Units of the results
------------------------------------------------------------

/- The supply fits a 64-bit word. -/
theorem cap_le_wordMax :
    cap ≤ Numeral.wordMax := by
  decide

/- Units within the supply make an amount. -/
theorem ofUnits_of_le
    {n : Nat}
    (h : n ≤ cap) :
    ofUnits n = .ok ⟨n, h⟩ := by
  have hWord : ¬ Numeral.wordMax < n :=
    Nat.not_lt.mpr (Nat.le_trans h cap_le_wordMax)
  simp [ofUnits, hWord, h]

/- The units of an amount made of units are those units. -/
theorem units_of_ofUnits
    {n : Nat}
    {a : Amount}
    (h : ofUnits n = .ok a) :
    a.units = n := by
  unfold ofUnits at h
  split at h
  · cases h
  · split at h
    · cases h
      rfl
    · cases h

@[simp]
theorem units_zero :
    zero.units = 0 :=
  rfl

@[simp]
theorem units_supply :
    supply.units = cap :=
  rfl

@[simp]
theorem units_capped
    (n : Nat) :
    (capped n).units = min n cap :=
  rfl

@[simp]
theorem units_addCapped
    (a : Amount)
    (b : Amount) :
    (addCapped a b).units = min (a.units + b.units) cap :=
  rfl

@[simp]
theorem units_subFloored
    (a : Amount)
    (b : Amount) :
    (subFloored a b).units = a.units - b.units :=
  rfl

@[simp]
theorem units_mulCapped
    (a : Amount)
    (factor : Nat) :
    (mulCapped a factor).units = min (a.units * factor) cap :=
  rfl

@[simp]
theorem units_least
    (a : Amount)
    (b : Amount) :
    (least a b).units = min a.units b.units := by
  unfold least
  split
  · rename_i h
    exact (Nat.min_eq_left h).symm
  · rename_i h
    exact (Nat.min_eq_right (Nat.le_of_not_le h)).symm

@[simp]
theorem units_greatest
    (a : Amount)
    (b : Amount) :
    (greatest a b).units = max a.units b.units := by
  unfold greatest
  split
  · rename_i h
    exact (Nat.max_eq_right h).symm
  · rename_i h
    exact (Nat.max_eq_left (Nat.le_of_not_le h)).symm

end Amount

end Remit
