import Remit.Text.Width.Ligature

/-
  This file defines pictographs that are joined to the one that
  follows them, and then take no columns of their own. A line is
  read from its end, so what is joined is known by its last
  characters first.

  Key definitions include:
    * `Text.Width.Joined`
    * `Text.Width.Picture`
    * `Text.Width.Picture.ofChar?`
    * `Text.Width.Picture.before?`
-/

namespace Remit.Text.Width

/-
  What has been read of a pictograph that a joiner follows: only
  the joiner, the frame of a key, letters of regions, or marks
  that name the part of a region, ending in letters or digits.
-/
inductive Joined where
| nothing
| keyFrame
| oneRegion
| evenRegions
| oddRegions
| tagLetters (count : Nat)
| tagDigits (count : Nat)
deriving DecidableEq, Repr

/-
  The start of a text that belongs to a pictograph: a tone,
  letters of regions, a whole pictograph, or the end of one that
  is joined to the next.
-/
inductive Picture where
| tone
| oneRegion
| regions
| whole
| joined (part : Joined)
deriving DecidableEq, Repr

/- The frame that makes a digit a key. -/
def keyFrame : Char :=
  '\u20e3'

/- A hidden letter in the name of a flag. -/
def IsTagLetter (c : Char) : Prop :=
  0xe0061 ≤ c.toNat ∧ c.toNat ≤ 0xe007a

instance (c : Char) : Decidable (IsTagLetter c) := by
  unfold IsTagLetter
  infer_instance

/- A hidden digit in the name of a flag. -/
def IsTagDigit (c : Char) : Prop :=
  0xe0030 ≤ c.toNat ∧ c.toNat ≤ 0xe0039

instance (c : Char) : Decidable (IsTagDigit c) := by
  unfold IsTagDigit
  infer_instance

/- The code point of the hidden end of the name of a flag. -/
def tagEnd : Nat :=
  0xe007f

/- The code point of the flag that hidden letters give a name. -/
def blackFlag : Nat :=
  0x1f3f4

/- A letter of a region. -/
def IsRegion (c : Char) : Prop :=
  InRanges regionRanges c

instance (c : Char) : Decidable (IsRegion c) := by
  unfold IsRegion
  infer_instance

namespace Joined

/-
  The columns that a character adds in front of a joined part,
  and what the text starts with then. Two letters of regions are
  one flag; a third starts a flag of its own, and the letter that
  is left over takes its column again.
-/
def before? : Joined → Char → Option (Int × Picture)
| nothing, c =>
    if c = Width.keyFrame then
      some (0, .joined keyFrame)
    else if IsRegion c then
      some (1, .joined oneRegion)
    else if InRanges toneRanges c then
      some (0, .tone)
    else if c.toNat = tagEnd then
      some (0, .joined (tagLetters 0))
    else if InRanges pictureRanges c then
      some (0, .whole)
    else
      none
| keyFrame, _ => none
| oneRegion, c =>
    if IsRegion c then some (-1, .joined evenRegions) else none
| evenRegions, c =>
    if IsRegion c then
      some (3, .joined oddRegions)
    else if c = joiner then
      some (0, .joined nothing)
    else
      none
| oddRegions, c =>
    if IsRegion c then
      some (-1, .joined evenRegions)
    else if c = joiner then
      some (0, .joined nothing)
    else
      none
| tagLetters count, c =>
    if IsTagLetter c ∧ count < 6 then
      some (0, .joined (tagLetters (count + 1)))
    else if IsTagDigit c ∧ count ≤ 4 then
      some (0, .joined (tagDigits 1))
    else if c.toNat = blackFlag ∧ 3 ≤ count then
      some (0, .whole)
    else
      none
| tagDigits count, c =>
    if IsTagDigit c ∧ count < 3 then
      some (0, .joined (tagDigits (count + 1)))
    else if c.toNat = blackFlag ∧ count = 3 then
      some (0, .whole)
    else
      none

end Joined

namespace Picture

/- What a character by itself is of a pictograph. -/
def ofChar? (c : Char) : Option Picture :=
  if InRanges toneRanges c then
    some tone
  else if IsRegion c then
    some oneRegion
  else if InRanges pictureRanges c then
    some whole
  else
    none

/- A joiner in front of it joins another pictograph to it. -/
def CanBeJoined (p : Picture) : Prop :=
  p = tone ∨ p = regions ∨ p = whole

instance (p : Picture) : Decidable p.CanBeJoined := by
  unfold CanBeJoined
  infer_instance

/-
  The columns that a character adds in front of a pictograph, and
  what the text starts with then; nothing, if the character does
  not belong to the pictograph.
-/
def before? (p : Picture) (c : Char) : Option (Int × Picture) :=
  if p.CanBeJoined ∧ c = joiner then
    some (0, joined .nothing)
  else
    match p with
    | tone => if InRanges toneBaseRanges c then some (0, whole) else none
    | oneRegion => if IsRegion c then some (1, regions) else none
    | regions => if IsRegion c then some (1, regions) else none
    | whole => none
    | joined part => part.before? c

end Picture

end Remit.Text.Width
