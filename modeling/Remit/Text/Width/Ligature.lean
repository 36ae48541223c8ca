import Remit.Text.Width.Ranges

/-
  This file defines letters that take fewer columns together
  than alone. A line is read from its end, so a ligature is known
  by its last letters first, and the letters in front of them
  decide whether it comes about.

  Key definitions include:
    * `Text.Width.Ligature`
    * `Text.Width.Ligature.ofChar?`
    * `Text.Width.Ligature.before?`
-/

namespace Remit.Text.Width

/-
  The end of a ligature: of Arabic lam and alef, of Hebrew alef
  and lamed, of Buginese a, i and ya, of two consonants of
  Tifinagh, of two tones of Lisu, of two letters of Old Turkic,
  of a Khmer letter written below another, and of the vowels of
  Kirat Rai. Some only come about with a joiner.
-/
inductive Ligature where
| alef
| lamed (joined : Bool)
| ya (joined : Bool)
| vowelAndYa
| consonant (joined : Bool)
| joinerAndConsonant
| lastTone
| orkhonI (joined : Bool)
| subscript
| vowelE
| vowelAi
deriving DecidableEq, Repr

/- The joiner of characters, which takes no column. -/
def joiner : Char :=
  '\u200d'

/- The sign between two consonants of Tifinagh. -/
def tifinaghJoiner : Char :=
  '\u2d7f'

namespace Ligature

/- The ligature that a character can be the end of. -/
def ofChar? (c : Char) : Option Ligature :=
  if InRanges alefRanges c then
    some alef
  else if InRanges tifinaghRanges c then
    some (consonant false)
  else if InRanges lastToneRanges c then
    some lastTone
  else if InRanges subscriptRanges c then
    some subscript
  else
    match c.toNat with
    | 0x05dc => some (lamed false)
    | 0x1a10 => some (ya false)
    | 0x10c03 => some (orkhonI false)
    | 0x16d67 => some vowelE
    | 0x16d68 => some vowelAi
    | _ => none

/- The ligature behind a joiner. -/
def join : Ligature → Ligature
| lamed _ => lamed true
| ya _ => ya true
| consonant _ => consonant true
| orkhonI _ => orkhonI true
| l => l

/- Arabic letters are joined across the character. -/
def IsTransparent (c : Char) : Prop :=
  InRanges markRanges c ∧ ¬ InRanges firmRanges c

instance (c : Char) : Decidable (IsTransparent c) := by
  unfold IsTransparent
  infer_instance

/- A character goes between the letters of any ligature but the Arabic. -/
def Passes (l : Ligature) (c : Char) : Prop :=
  l ≠ alef ∧ InRanges hiddenRanges c

instance (l : Ligature) (c : Char) : Decidable (l.Passes c) := by
  unfold Passes
  infer_instance

/-
  The columns that a character adds in front of the end of a
  ligature, and the end of it from there on; nothing, if the
  character does not belong to the ligature.
-/
def letter? : Ligature → Char → Option (Int × Option Ligature)
| alef, c =>
    if InRanges lamRanges c then
      some (0, none)
    else if IsTransparent c then
      some (0, some alef)
    else
      none
| lamed true, '\u05d0' => some (0, none)
| ya true, '\u1a17' => some (0, some vowelAndYa)
| vowelAndYa, '\u1a15' => some (0, none)
| consonant joined, c =>
    if c = tifinaghJoiner then
      some (1, some joinerAndConsonant)
    else if joined ∧ InRanges tifinaghRanges c then
      some (0, none)
    else
      none
| joinerAndConsonant, c =>
    if InRanges tifinaghRanges c then some (-1, none) else none
| lastTone, c =>
    if InRanges firstToneRanges c then some (0, none) else none
| orkhonI true, c =>
    if c.toNat = 0x10c32 then some (0, none) else none
| subscript, '\u17d2' => some (-1, none)
| vowelE, c =>
    match c.toNat with
    | 0x16d63 => some (0, none)
    | 0x16d67 => some (0, some vowelAi)
    | 0x16d68 => some (1, some vowelE)
    | 0x16d69 => some (0, none)
    | _ => none
| vowelAi, c =>
    if c.toNat = 0x16d63 then some (0, none) else none
| _, _ => none

/- Read the character in front of the end of a ligature. -/
def before? (l : Ligature) (c : Char) :
    Option (Int × Option Ligature) :=
  if l ≠ alef ∧ c = joiner then
    some (0, some l.join)
  else if l.Passes c then
    some (0, some l)
  else
    l.letter? c

end Ligature

end Remit.Text.Width
