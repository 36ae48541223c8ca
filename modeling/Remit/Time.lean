import Remit.Text.Blank
import Remit.Text.Numeral
import Remit.Text.Search

/-
  This file defines points in time and their texts as RFC 3339
  has them. Reading allows blanks between the parts, and a zone;
  writing gives universal time.

  Key definitions include:
    * `Time`
    * `Time.daysOfDate`
    * `Time.dateOfDays`
    * `Time.ofText?`
    * `Time.text`
-/

namespace Remit

/-
  Seconds since the start of 1970 in universal time, and
  nanoseconds, which go beyond a second in a leap second.
-/
structure Time where
  seconds : Int
  nanos : Nat
deriving DecidableEq, Repr

namespace Time

------------------------------------------------------------
-- The Calendar
------------------------------------------------------------

/- A date of the Gregorian calendar. -/
structure Date where
  year : Int
  month : Nat
  day : Nat
deriving DecidableEq, Repr

/- Every fourth year is a leap year, but for three in four centuries. -/
def IsLeap (year : Int) : Prop :=
  year % 4 = 0 ∧ (year % 100 ≠ 0 ∨ year % 400 = 0)

instance (year : Int) : Decidable (IsLeap year) := by
  unfold IsLeap
  infer_instance

/- The days of a month. -/
def monthDays (year : Int) (month : Nat) : Nat :=
  if month = 2 then
    if IsLeap year then 29 else 28
  else if month ∈ [4, 6, 9, 11] then
    30
  else
    31

/- The first year that has dates. -/
def leastYear : Int :=
  -262143

/- The last year that has dates. -/
def mostYear : Int :=
  262142

/- There is such a day. -/
def Date.Exists (d : Date) : Prop :=
  leastYear ≤ d.year ∧ d.year ≤ mostYear ∧
    1 ≤ d.month ∧ d.month ≤ 12 ∧
    1 ≤ d.day ∧ d.day ≤ monthDays d.year d.month

instance (d : Date) : Decidable d.Exists := by
  unfold Date.Exists
  infer_instance

/-
  The days from the start of 1970 to a date. Years count from
  March, so that a leap day ends its year.
-/
def daysOfDate (d : Date) : Int :=
  let year := if d.month ≤ 2 then d.year - 1 else d.year
  let era := year / 400
  let yearOfEra := year % 400
  let month : Int := (d.month + 9) % 12
  let dayOfYear := (153 * month + 2) / 5 + d.day - 1
  let dayOfEra :=
    yearOfEra * 365 + yearOfEra / 4 - yearOfEra / 100 + dayOfYear
  era * 146097 + dayOfEra - 719468

/- The date that is so many days from the start of 1970. -/
def dateOfDays (days : Int) : Date :=
  let shifted := days + 719468
  let era := shifted / 146097
  let dayOfEra := shifted % 146097
  let yearOfEra :=
    (dayOfEra - dayOfEra / 1460 + dayOfEra / 36524
      - dayOfEra / 146096) / 365
  let dayOfYear :=
    dayOfEra - (365 * yearOfEra + yearOfEra / 4 - yearOfEra / 100)
  let month := (5 * dayOfYear + 2) / 153
  let day := dayOfYear - (153 * month + 2) / 5 + 1
  let month := if month < 10 then month + 3 else month - 9
  let year := yearOfEra + era * 400
  { year := if month ≤ 2 then year + 1 else year
    month := month.toNat
    day := day.toNat }

/- The seconds of a day. -/
def daySeconds : Int :=
  86400

/- The time lies on a date that exists. -/
def HasDate (t : Time) : Prop :=
  daysOfDate ⟨leastYear, 1, 1⟩ * daySeconds ≤ t.seconds ∧
    t.seconds < (daysOfDate ⟨mostYear, 12, 31⟩ + 1) * daySeconds

instance (t : Time) : Decidable t.HasDate := by
  unfold HasDate
  infer_instance

------------------------------------------------------------
-- Reading
------------------------------------------------------------

/- A number of one to `most` digits after blanks, and the rest. -/
def number? (most : Nat) (cs : List Char) : Option (Nat × List Char) :=
  let cs := Text.trimStart cs
  let digits := (cs.takeWhile Char.isDigit).take most
  if digits = [] then
    none
  else
    some (Numeral.value digits, cs.drop digits.length)

/- The most digits that a year with dates has, but for zeros in front. -/
def mostYearDigits : Nat :=
  6

/- A year whose digits follow a sign at once, and the rest. -/
def signedYear? (cs : List Char) : Option (Nat × List Char) :=
  let digits := cs.takeWhile Char.isDigit
  let significant := digits.dropWhile (· == '0')
  if digits = [] ∨ mostYearDigits < significant.length then
    none
  else
    some (Numeral.value significant, cs.drop digits.length)

/- A year: four digits at most, or any number of them after a sign. -/
def year? (cs : List Char) : Option (Int × List Char) :=
  match Text.trimStart cs with
  | '-' :: rest => do
      let (n, rest) ← signedYear? rest
      some (-(n : Int), rest)
  | '+' :: rest => do
      let (n, rest) ← signedYear? rest
      some ((n : Int), rest)
  | cs => do
      let (n, rest) ← number? 4 cs
      some ((n : Int), rest)

/- A mark after blanks, and the rest. -/
def mark? (c : Char) (cs : List Char) : Option (List Char) :=
  Text.after? [c] (Text.trimStart cs)

/- A date, and the rest. -/
def date? (cs : List Char) : Option (Date × List Char) := do
  let (year, cs) ← year? cs
  let cs ← mark? '-' cs
  let (month, cs) ← number? 2 cs
  let cs ← mark? '-' cs
  let (day, cs) ← number? 2 cs
  some (⟨year, month, day⟩, cs)

/- The nanoseconds after a point, and the rest. -/
def nanos? (cs : List Char) : Option (Nat × List Char) :=
  match cs with
  | '.' :: rest =>
      let digits := rest.takeWhile Char.isDigit
      let kept := digits.take 9
      if digits = [] then
        none
      else
        some (Numeral.value kept * Nat.pow 10 (9 - kept.length),
          rest.drop digits.length)
  | _ => some (0, cs)

/- The two digits at the start, and the rest. -/
def twoDigits? (cs : List Char) : Option (Nat × List Char) :=
  match cs with
  | a :: b :: rest =>
      if a.isDigit ∧ b.isDigit then
        some (Numeral.value [a, b], rest)
      else
        none
  | _ => none

/-
  The seconds by which a zone is ahead of universal time: a
  letter or name of universal time, or a sign, hours and minutes.
-/
def zone? (cs : List Char) : Option (Int × List Char) :=
  let cs := Text.trimStart cs
  if (cs.take 3).map Char.toLower = ['u', 't', 'c'] then
    some (0, cs.drop 3)
  else
    match cs with
    | [] => none
    | c :: rest =>
        if c = 'Z' ∨ c = 'z' then
          some (0, rest)
        else if c ∈ ['+', '-', '\u2212'] then do
          let (hours, rest) ← twoDigits? rest
          let rest :=
            rest.dropWhile (fun c => c == ':' || decide (Text.IsBlank c))
          let (minutes, rest) ← twoDigits? rest
          let ahead : Int := hours * 3600 + minutes * 60
          if minutes < 60 ∧ ahead < daySeconds then
            some (if c = '+' then ahead else -ahead, rest)
          else
            none
        else
          none

/-
  The point in time that a text denotes. Its date must exist as
  it is written, and in universal time.
-/
def ofText? (s : String) : Option Time := do
  let (date, cs) ← date? s.toList
  let cs ←
    match cs with
    | c :: rest => if c ∈ ['T', 't', ' '] then some rest else none
    | [] => none
  let (hour, cs) ← number? 2 cs
  let cs ← mark? ':' cs
  let (minute, cs) ← number? 2 cs
  let cs ← mark? ':' cs
  let (second, cs) ← number? 2 cs
  let (nanos, cs) ← nanos? cs
  let (ahead, cs) ← zone? cs
  if Text.trimStart cs = [] ∧ date.Exists ∧
      hour < 24 ∧ minute < 60 ∧ second ≤ 60 then
    let leap := if second = 60 then 1 else 0
    let clock : Int := hour * 3600 + minute * 60 + (second - leap : Nat)
    let t : Time :=
      { seconds := daysOfDate date * daySeconds + clock - ahead
        nanos := nanos + leap * 1000000000 }
    if t.HasDate then some t else none
  else
    none

------------------------------------------------------------
-- Writing
------------------------------------------------------------

/- A year: four digits, or a sign and more where they are needed. -/
def yearText (year : Int) : List Char :=
  if 0 ≤ year ∧ year ≤ 9999 then
    Numeral.padded 4 year.toNat
  else if year < 0 then
    '-' :: Numeral.padded 4 year.natAbs
  else
    '+' :: Numeral.padded 4 year.toNat

/- The places of a second: none, three, six or nine. -/
def nanosText (nanos : Nat) : List Char :=
  if nanos = 0 then
    []
  else if nanos % 1000000 = 0 then
    '.' :: Numeral.padded 3 (nanos / 1000000)
  else if nanos % 1000 = 0 then
    '.' :: Numeral.padded 6 (nanos / 1000)
  else
    '.' :: Numeral.padded 9 nanos

/- The text of a point in time, in universal time. -/
def text (t : Time) : String :=
  let date := dateOfDays (t.seconds / daySeconds)
  let clock := (t.seconds % daySeconds).toNat
  let leap := t.nanos / 1000000000
  String.ofList
    (yearText date.year ++ '-' :: Numeral.padded 2 date.month
      ++ '-' :: Numeral.padded 2 date.day
      ++ 'T' :: Numeral.padded 2 (clock / 3600)
      ++ ':' :: Numeral.padded 2 (clock / 60 % 60)
      ++ ':' :: Numeral.padded 2 (clock % 60 + leap)
      ++ nanosText (t.nanos % 1000000000) ++ ['Z'])

/- The start of 1970. -/
def epoch : Time :=
  ⟨0, 0⟩

end Time

end Remit
