import Remit.Text.Width.Picture

/-
  This file defines how many columns of a terminal a line of
  text takes. A character takes one column, two if it is wide,
  and none if it is a mark on others. Ligatures take fewer, and
  so do pictographs that are made of several characters. The
  line is read from its end: what follows a character decides
  what it adds.

  Key definitions include:
    * `Text.Width.ofChar`
    * `Text.Width.Start`
    * `Text.Width.Reading`
    * `Text.Width.Reading.step`
    * `Text.width`
-/

namespace Remit.Text.Width

------------------------------------------------------------
-- Single Characters
------------------------------------------------------------

/- The last character of the ones that always take one column. -/
def lastPlain : Nat :=
  0xa0

/- A Khmer sign that stands for a whole word. -/
def khmerAndSoForth : Char :=
  '\u17d8'

/- The columns of a character by itself. -/
def ofChar (c : Char) : Nat :=
  if c.toNat ≤ lastPlain then
    1
  else if c = khmerAndSoForth then
    3
  else if InRanges markRanges c then
    0
  else if InRanges wideRanges c then
    2
  else
    1

/- Selects how the character in front of it is shown. -/
inductive Selector where
| picture
| sign
deriving DecidableEq, Repr

/- The selector that a character is. -/
def Selector.ofChar? (c : Char) : Option Selector :=
  if c = '\ufe0f' then
    some picture
  else if c = '\ufe0e' then
    some sign
  else
    none

/- A character becomes a pictograph when one is selected. -/
def HasPicture (c : Char) : Prop :=
  InRanges selectableRanges c

instance (c : Char) : Decidable (HasPicture c) := by
  unfold HasPicture
  infer_instance

/- An ideograph in a frame, which stays wide as a sign. -/
def IsFramed (c : Char) : Prop :=
  0x1f200 ≤ c.toNat ∧ c.toNat ≤ 0x1f2ff

instance (c : Char) : Decidable (IsFramed c) := by
  unfold IsFramed
  infer_instance

/- A pictograph becomes narrow when a sign is selected. -/
def HasNarrowSign (c : Char) : Prop :=
  InRanges selectableRanges c ∧ InRanges pictureRanges c ∧ ¬ IsFramed c

instance (c : Char) : Decidable (HasNarrowSign c) := by
  unfold HasNarrowSign
  infer_instance

------------------------------------------------------------
-- Lines
------------------------------------------------------------

/- What a text starts with, as far as characters in front of it can tell. -/
inductive Start where
| other
| ligature (l : Ligature)
| picture (p : Picture)
deriving DecidableEq, Repr

namespace Start

/- What a character by itself starts. -/
def ofChar (c : Char) : Start :=
  match Picture.ofChar? c with
  | some p => .picture p
  | none =>
      match Ligature.ofChar? c with
      | some l => .ligature l
      | none => .other

/-
  The columns that a character adds, and the start of the text
  with it, if it belongs to the present start.
-/
def before? : Start → Char → Option (Int × Start)
| other, _ => none
| ligature l, c =>
    (l.before? c).map
      (fun (columns, rest) => (columns, rest.elim other ligature))
| picture p, c =>
    (p.before? c).map (fun (columns, p) => (columns, picture p))

/- A joiner, or a frame and a joiner, wait for a pictograph. -/
def IsOpen (s : Start) : Prop :=
  s = picture (.joined .nothing) ∨ s = picture (.joined .keyFrame)

instance (s : Start) : Decidable s.IsOpen := by
  unfold IsOpen
  infer_instance

/- What is left of a start when a selector comes before it. -/
def selected (s : Start) (selector : Selector) : Start :=
  match s with
  | ligature l => .ligature l
  | _ => if s.IsOpen ∧ selector = .picture then s else other

/- What is left of a start when its selector selects nothing. -/
def unselected : Start → Start
| ligature l => .ligature l
| _ => other

end Start

/-
  The columns of the text that has been read, what it starts
  with, and the selector in front of that.
-/
structure Reading where
  columns : Int
  start : Start
  selector : Option Selector
deriving DecidableEq, Repr

namespace Reading

/- Nothing has been read. -/
def empty : Reading :=
  ⟨0, .other, none⟩

/- Read a character in front of a start without a selector. -/
def read (columns : Int) (start : Start) (c : Char) : Reading :=
  if c.toNat ≤ lastPlain then
    ⟨columns + 1, .other, none⟩
  else
    match Selector.ofChar? c with
    | some selector => ⟨columns, start.selected selector, some selector⟩
    | none =>
        match start.before? c with
        | some (added, start) => ⟨columns + added, start, none⟩
        | none => ⟨columns + Width.ofChar c, Start.ofChar c, none⟩

/-
  Read a character. A selected pictograph is wide, or takes no
  columns when it is joined to the next; a selected sign is
  narrow.
-/
def step (c : Char) (r : Reading) : Reading :=
  match r.selector with
  | none => read r.columns r.start c
  | some .picture =>
      if HasPicture c then
        let added := if r.start.IsOpen then 0 else 2
        ⟨r.columns + added, .picture .whole, none⟩
      else
        read r.columns r.start.unselected c
  | some .sign =>
      if HasNarrowSign c then
        ⟨r.columns + 1, .other, none⟩
      else
        read r.columns r.start c

end Reading

end Remit.Text.Width

namespace Remit.Text

/- The columns that a line takes. -/
def width (cs : List Char) : Nat :=
  (cs.foldr Width.Reading.step Width.Reading.empty).columns.toNat

end Remit.Text
