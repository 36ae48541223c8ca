/-
  This file defines decimal numerals: reading digits, reading
  signed and unsigned 64-bit numbers, and writing numbers.

  Key definitions include:
    * `Numeral.IsDigits`
    * `Numeral.value`
    * `Numeral.within?`
    * `Numeral.unsigned?`
    * `Numeral.signedBound`
    * `Numeral.signed?`
    * `Numeral.padded`
-/

namespace Remit.Numeral

/- The largest number of an unsigned 64-bit word. -/
def wordMax : Nat :=
  UInt64.size - 1

/- How many negative numbers there are of a signed 64-bit word. -/
def signedBound : Nat :=
  Nat.pow 2 63

/- Only ASCII digits, or nothing. -/
def IsDigits (cs : List Char) : Prop :=
  ∀ c ∈ cs, c.isDigit = true

instance (cs : List Char) : Decidable (IsDigits cs) :=
  List.decidableBAll _ cs

/- The number that a run of digits denotes, zero for no digits. -/
def value (cs : List Char) : Nat :=
  Nat.ofDigitChars 10 cs 0

/-
  Go on reading digits behind a number, as long as the number
  read is at most `most`.
-/
def extend? (most : Nat) (start : Nat) : List Char → Option Nat
| [] => if start ≤ most then some start else none
| c :: cs =>
    if start ≤ most then
      extend? most (10 * start + (c.toNat - '0'.toNat)) cs
    else
      none

/- The number that a run of digits denotes, if it is at most `most`. -/
def within? (most : Nat) (cs : List Char) : Option Nat :=
  extend? most 0 cs

/- Read a number up to `most`: at least one digit and nothing else. -/
def natural? (most : Nat) (cs : List Char) : Option Nat :=
  if cs ≠ [] ∧ IsDigits cs then
    within? most cs
  else
    none

/- Read an unsigned 64-bit number; a plus sign may stand in front. -/
def unsigned? (cs : List Char) : Option Nat :=
  match cs with
  | '+' :: rest => natural? wordMax rest
  | _ => natural? wordMax cs

/- Read a signed 64-bit number; one sign may stand in front. -/
def signed? (cs : List Char) : Option Int64 :=
  match cs with
  | '-' :: rest =>
      (natural? signedBound rest).map (fun n => Int64.ofInt (-n))
  | '+' :: rest => (natural? (signedBound - 1) rest).map Int64.ofNat
  | _ => (natural? (signedBound - 1) cs).map Int64.ofNat

/- The digits of a number, without leading zeros. -/
def digits (n : Nat) : List Char :=
  Nat.toDigits 10 n

/- The digits of a number, with zeros in front up to a width. -/
def padded (width : Nat) (n : Nat) : List Char :=
  List.replicate (width - (digits n).length) '0' ++ digits n

/- The numeral of a number. -/
def ofNat (n : Nat) : String :=
  String.ofList (digits n)

/- The numeral of an integer, with a minus sign when it is negative. -/
def ofInt : Int → String
| .ofNat n => ofNat n
| .negSucc n => String.ofList ('-' :: digits (n + 1))

/- More digits never denote less. -/
theorem le_ofDigitChars
    (start : Nat)
    (cs : List Char) :
    start ≤ Nat.ofDigitChars 10 cs start := by
  induction cs generalizing start with
  | nil => exact Nat.le_refl _
  | cons c cs ih =>
      rw [Nat.ofDigitChars_cons]
      have h := ih (10 * start + (c.toNat - '0'.toNat))
      omega

/- Reading stops early only for numbers beyond the bound. -/
theorem extend?_eq
    (most start : Nat)
    (cs : List Char) :
    extend? most start cs =
      (some (Nat.ofDigitChars 10 cs start)).filter (· ≤ most) := by
  induction cs generalizing start with
  | nil => simp [extend?, Option.filter]
  | cons c cs ih =>
      unfold extend?
      split
      · rw [ih, Nat.ofDigitChars_cons]
      · rename_i h
        have hle := le_ofDigitChars start (c :: cs)
        have hlt : ¬ Nat.ofDigitChars 10 (c :: cs) start ≤ most := by
          omega
        simp [Option.filter, hlt]

/- Bounded reading yields the number, if it is within the bound. -/
theorem within?_eq
    (most : Nat)
    (cs : List Char) :
    within? most cs = (some (value cs)).filter (· ≤ most) :=
  extend?_eq most 0 cs

/- The digits of a number denote it. -/
theorem value_digits
    (n : Nat) :
    value (digits n) = n :=
  Nat.ofDigitChars_ten_toDigits

/- Numbers with the same digits are the same. -/
theorem digits_inj
    {m n : Nat} :
    digits m = digits n ↔ m = n := by
  constructor
  · intro h
    rw [← value_digits m, h, value_digits]
  · exact congrArg digits

/- The digits of a number are digits. -/
theorem isDigits_digits
    (n : Nat) :
    IsDigits (digits n) := by
  intro c hc
  exact Nat.isDigit_of_mem_toDigits (by decide) (by decide) hc

/- Zeros in front do not change what digits denote. -/
theorem value_padded
    (width : Nat)
    (n : Nat) :
    value (padded width n) = n := by
  simp [padded, value, digits, Nat.ofDigitChars_append]

end Remit.Numeral
