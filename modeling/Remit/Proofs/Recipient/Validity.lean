import Remit.Proofs.Address.Grammar
import Remit.Recipient

/-
  This file states what makes a row of a payment payable and
  shows that nothing is wrong with exactly the payable rows.

  Key definitions include:
    * `Memo.IsSendable`
    * `Recipient.IsPayable`

  Key theorems include:
    * `Memo.check_eq_ok_iff`
    * `Recipient.isValid_iff_isPayable`
-/

namespace Remit

------------------------------------------------------------
-- Memos
------------------------------------------------------------

namespace Memo

/-
  A memo is within its length, and if it spells a text, that has
  no control characters but those that lay out lines.
-/
def IsSendable (m : Memo) : Prop :=
  m.size ≤ mostBytes ∧
    ∀ s, m.text? = some s →
      ∀ c ∈ s.toList, IsControl c → c ∈ ['\n', '\t', '\r']

/- A memo is clean when its control characters lay out lines. -/
private theorem isClean_iff
    {m : Memo} :
    m.IsClean ↔
      ∀ s, m.text? = some s →
        ∀ c ∈ s.toList, IsControl c → c ∈ ['\n', '\t', '\r'] := by
  unfold IsClean IsForbidden
  simp only [Option.mem_def, not_and, Decidable.not_not]

/- A memo passes its check exactly when it can be sent. -/
theorem check_eq_ok_iff
    {m : Memo} :
    m.check = .ok () ↔ m.IsSendable := by
  unfold check IsSendable
  rw [← isClean_iff]
  split
  · rename_i hLong
    simp only [reduceCtorEq, false_iff, not_and]
    intro hShort
    omega
  · rename_i hLong
    split
    · rename_i hClean
      exact iff_of_true rfl ⟨Nat.not_lt.mp hLong, hClean⟩
    · rename_i hClean
      simp [hClean]

end Memo

------------------------------------------------------------
-- Rows
------------------------------------------------------------

namespace Recipient

/-
  A row can be paid on a network: its trimmed address is one of
  the network, its amount can be read and is not zero, and its
  memo, if it has one, can be sent.
-/
structure IsPayable (n : Network) (r : Recipient) : Prop where
  address : Address.IsShielded n (Text.trimList r.address.toList)
  amount : ∃ a, Amount.ofText r.amountText = .ok a ∧ 0 < a.units
  memo : ∀ m, r.memo = some m → m.IsSendable

/- Nothing is wrong with exactly the addresses of the network. -/
theorem addressFault?_eq_none_iff
    {n : Network}
    {r : Recipient} :
    r.addressFault? n = none ↔
      Address.IsShielded n (Text.trimList r.address.toList) := by
  rw [← Address.check_eq_ok_iff]
  unfold addressFault?
  split
  · rename_i h
    exact iff_of_true rfl h
  · rename_i h
    simp [h]
  · rename_i h
    simp [h]

/- A blank text is no amount. -/
theorem ofText_of_allBlank
    {s : String}
    (h : Text.AllBlank s) :
    Amount.ofText s = .error .emptyInput := by
  unfold Text.AllBlank at h
  simp [Amount.ofText, h, Amount.Decimal.read]

/- Nothing is wrong with exactly the amounts other than zero. -/
theorem amountFault?_eq_none_iff
    {r : Recipient} :
    r.amountFault? = none ↔
      ∃ a, Amount.ofText r.amountText = .ok a ∧ 0 < a.units := by
  unfold amountFault?
  split
  · rename_i hBlank
    simp [ofText_of_allBlank hBlank]
  · cases hText : Amount.ofText r.amountText with
    | ok a =>
        by_cases hZero : a.IsZero
        · have hUnits : a.units = 0 := hZero
          simp [hZero, hUnits]
        · have hUnits : 0 < a.units := Nat.pos_of_ne_zero hZero
          simp [hZero, hUnits]
    | error cause => simp

/- Nothing is wrong with exactly the memos that can be sent. -/
theorem memoFault?_eq_none_iff
    {r : Recipient} :
    r.memoFault? = none ↔ ∀ m, r.memo = some m → m.IsSendable := by
  unfold memoFault?
  cases hMemo : r.memo with
  | none => simp
  | some m =>
      simp only [Option.some.injEq, forall_eq']
      rw [← Memo.check_eq_ok_iff]
      cases m.check with
      | ok _ => exact iff_of_true rfl rfl
      | error cause => simp

/- A row is valid exactly when it can be paid. -/
theorem isValid_iff_isPayable
    {n : Network}
    {r : Recipient} :
    r.IsValid n ↔ r.IsPayable n := by
  unfold IsValid fault?
  rw [Option.or_eq_none_iff, Option.or_eq_none_iff,
    addressFault?_eq_none_iff, amountFault?_eq_none_iff,
    memoFault?_eq_none_iff]
  constructor
  · intro h
    exact ⟨h.1.1, h.1.2, h.2⟩
  · intro h
    exact ⟨⟨h.address, h.amount⟩, h.memo⟩

instance (n : Network) (r : Recipient) : Decidable (r.IsPayable n) :=
  decidable_of_iff (r.IsValid n) isValid_iff_isPayable

/- A valid row has an amount. -/
theorem IsPayable.amount?_eq_some
    {n : Network}
    {r : Recipient}
    (h : r.IsPayable n) :
    ∃ a, r.amount? = some a := by
  rcases h.amount with ⟨a, hText, _⟩
  exact ⟨a, by rw [amount?, hText]; rfl⟩

end Recipient

end Remit
