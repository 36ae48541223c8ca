import Remit.Payment
import Remit.Time

/-
  This file defines transactions that were built and wait to be
  signed, and their identifiers.

  Key definitions include:
    * `DraftId`
    * `DraftId.text`
    * `DraftId.ofText?`
    * `DraftId.ofDigest`
    * `Draft`
    * `Draft.Matches`
-/

namespace Remit

------------------------------------------------------------
-- Identifiers
------------------------------------------------------------

/- The 128 bits that identify a draft. -/
abbrev DraftId : Type :=
  BitVec 128

namespace DraftId

/- So many hexadecimal digits of a number, the lowest ones. -/
def hexDigits : Nat → Nat → List Char
| 0, _ => []
| width + 1, n => hexDigits width (n / 16) ++ [Nat.digitChar (n % 16)]

/- The thirty-two digits of an identifier. -/
def plainText (id : DraftId) : String :=
  String.ofList (hexDigits 32 id.toNat)

/- The digits in groups of 8, 4, 4, 4 and 12 with hyphens between. -/
def text (id : DraftId) : String :=
  let digits := hexDigits 32 id.toNat
  String.intercalate "-"
    ([digits.take 8,
      (digits.drop 8).take 4,
      (digits.drop 12).take 4,
      (digits.drop 16).take 4,
      digits.drop 20].map String.ofList)

/- The value of a hexadecimal digit of either case. -/
def hexValue? (c : Char) : Option Nat :=
  if c.isDigit then
    some (c.toNat - '0'.toNat)
  else if 'a' ≤ c.toLower ∧ c.toLower ≤ 'f' then
    some (c.toLower.toNat - 'a'.toNat + 10)
  else
    none

/- The identifier that thirty-two digits write. -/
def ofDigits? (cs : List Char) : Option DraftId := do
  if cs.length = 32 then
    let values ← cs.mapM hexValue?
    some (BitVec.ofNat 128 (values.foldl (fun n d => n * 16 + d) 0))
  else
    none

/- The identifier of digits in groups with hyphens between. -/
def ofGroups? (cs : List Char) : Option DraftId :=
  let groups := Text.split '-' cs
  if groups.map List.length = [8, 4, 4, 4, 12] then
    ofDigits? groups.flatten
  else
    none

/- The mark of a uniform name, in small letters. -/
def uniformMark : List Char :=
  "urn:uuid:".toList

/-
  The identifier that a text writes: in groups, also behind the
  mark of a uniform name in any case or within braces, or plainly.
-/
def ofText? (s : String) : Option DraftId :=
  let cs := s.toList
  match cs.length with
  | 32 => ofDigits? cs
  | 36 => ofGroups? cs
  | 38 =>
      if cs.head? = some '\x7b' ∧ cs.getLast? = some '\x7d' then
        ofGroups? (cs.drop 1).dropLast
      else
        none
  | 45 =>
      if (cs.take uniformMark.length).map Char.toLower = uniformMark then
        ofGroups? (cs.drop uniformMark.length)
      else
        none
  | _ => none

/-
  The identifier that the first sixteen bytes of a digest make,
  with the marks of a random identifier of version four.
-/
def ofDigest (digest : Bytes) : DraftId :=
  let n := (digest.take 16).foldl (fun n b => n * 256 + b.toNat) 0
  let id := BitVec.ofNat 128 n
  let version := (id &&& ~~~ (0xf#128 <<< 76)) ||| (0x4#128 <<< 76)
  (version &&& ~~~ (0x3#128 <<< 62)) ||| (0x2#128 <<< 62)

end DraftId

------------------------------------------------------------
-- Drafts
------------------------------------------------------------

/- A transaction that was built; it may bear a fingerprint. -/
structure Draft where
  id : DraftId
  outputs : List Output
  fee : Amount
  totalAmount : Amount
  change : Amount
  inputTotal : Amount
  numInputs : Nat
  expiryHeight : Nat
  createdAt : Time
  fingerprint : Option String
deriving DecidableEq, Repr

namespace Draft

/- What leaves the wallet: the outputs and the fee. -/
def totalOut (d : Draft) : Amount :=
  d.totalAmount.addCapped d.fee

/- The draft bears this fingerprint. -/
def Matches (d : Draft) (fingerprint : String) : Prop :=
  d.fingerprint = some fingerprint

instance (d : Draft) (fingerprint : String) :
    Decidable (d.Matches fingerprint) := by
  unfold Matches
  infer_instance

/- The draft with the fingerprint of the request it was built for. -/
def stamped (d : Draft) (fingerprint : String) : Draft :=
  { d with fingerprint := some fingerprint }

end Draft

end Remit
