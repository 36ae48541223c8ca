import Remit.Bytes.Base64

/-
  This file defines memos: bytes that travel with a payment. A
  memo that is a text must not have control characters other
  than those that lay out lines.

  Key definitions include:
    * `Memo`
    * `Memo.ofText`
    * `Memo.IsNearLimit`
    * `Memo.text?`
    * `Memo.check`
-/

namespace Remit

/- The bytes of a memo. -/
structure Memo where
  bytes : Bytes
deriving DecidableEq, Repr

/- Why a memo cannot be sent. -/
inductive MemoError where
| tooLong (length : Nat) (most : Nat)
| controlCharacters
deriving DecidableEq, Repr

/- The wording of a memo failure. -/
def MemoError.message : MemoError → String
| tooLong length most =>
    s!"memo is {length} bytes, maximum is {most}"
| controlCharacters => "memo contains control characters"

namespace Memo

/- The most bytes of a memo. -/
def mostBytes : Nat :=
  512

/- From how many bytes on a memo is reported as nearly full. -/
def warningBytes : Nat :=
  400

/- The memo that spells a text. -/
def ofText (s : String) : Memo :=
  ⟨Utf8.encode s⟩

/- The number of bytes. -/
def size (m : Memo) : Nat :=
  m.bytes.length

/- The number of bytes that could still be added. -/
def remaining (m : Memo) : Nat :=
  mostBytes - m.size

/- So many bytes or more are nearly too many. -/
def IsNearLimit (m : Memo) (threshold : Nat) : Prop :=
  threshold ≤ m.size

instance (m : Memo) (threshold : Nat) :
    Decidable (m.IsNearLimit threshold) := by
  unfold IsNearLimit
  infer_instance

/- The text that a memo spells, if it spells one. -/
def text? (m : Memo) : Option String :=
  Utf8.decode? m.bytes

/- The base64 form of a memo. -/
def base64 (m : Memo) : String :=
  Base64.encode m.bytes

/- Control characters are those with the Unicode category `Cc`. -/
def IsControl (c : Char) : Prop :=
  c.toNat < 0x20 ∨ (0x7f ≤ c.toNat ∧ c.toNat < 0xa0)

instance (c : Char) : Decidable (IsControl c) := by
  unfold IsControl
  infer_instance

/- A control character that is no line break or tab. -/
def IsForbidden (c : Char) : Prop :=
  IsControl c ∧ c ∉ ['\n', '\t', '\r']

instance (c : Char) : Decidable (IsForbidden c) := by
  unfold IsForbidden
  infer_instance

/- A memo is clean unless it spells a forbidden character. -/
def IsClean (m : Memo) : Prop :=
  ∀ s ∈ m.text?, ∀ c ∈ s.toList, ¬ IsForbidden c

instance (m : Memo) : Decidable m.IsClean :=
  match h : m.text? with
  | none => isTrue (by simp [IsClean, h])
  | some s =>
      match List.decidableBAll (¬ IsForbidden ·) s.toList with
      | isTrue hs => isTrue (by simpa [IsClean, h] using hs)
      | isFalse hs => isFalse (by simpa [IsClean, h] using hs)

/- Check a memo: first its length, then its characters. -/
def check (m : Memo) : Except MemoError Unit :=
  if mostBytes < m.size then
    .error (.tooLong m.size mostBytes)
  else if m.IsClean then
    .ok ()
  else
    .error .controlCharacters

end Memo

end Remit
