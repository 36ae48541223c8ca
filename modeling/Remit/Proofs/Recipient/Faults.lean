import Remit.Proofs.Recipient.Validity

/-
  This file states what a row of a payment is at fault for: the
  first thing that is wrong with it, of the address, the amount
  and the memo in this order. It shows that this is what is
  reported of the row, so that a row is at fault for one thing
  at most, and for nothing if it can be paid.

  Key definitions include:
    * `Recipient.IsAtFault`

  Key theorems include:
    * `Recipient.fault?_eq_some_iff`
    * `Recipient.IsAtFault.unique`
    * `Recipient.IsAtFault.not_isPayable`
-/

namespace Remit

namespace Recipient

------------------------------------------------------------
-- The First Thing Wrong
------------------------------------------------------------

/-
  A row is at fault for its address if that is missing or not of
  the network; else for its amount if that is missing, cannot be
  read or is zero; else for its memo if that cannot be sent.
-/
inductive IsAtFault (n : Network) (r : Recipient) :
    Fault → Prop where
| addressRequired
    (hAddress : Address.check n r.address = .error .empty) :
    r.IsAtFault n .addressRequired
| badAddress
    (cause : AddressError)
    (hAddress : Address.check n r.address = .error cause)
    (hFilled : cause ≠ .empty) :
    r.IsAtFault n (.badAddress cause)
| amountRequired
    (hAddress : Address.check n r.address = .ok ())
    (hAmount : Text.AllBlank r.amountText) :
    r.IsAtFault n .amountRequired
| badAmount
    (cause : AmountError)
    (hAddress : Address.check n r.address = .ok ())
    (hFilled : ¬ Text.AllBlank r.amountText)
    (hAmount : Amount.ofText r.amountText = .error cause) :
    r.IsAtFault n (.badAmount cause)
| amountZero
    (a : Amount)
    (hAddress : Address.check n r.address = .ok ())
    (hAmount : Amount.ofText r.amountText = .ok a)
    (hZero : a.units = 0) :
    r.IsAtFault n .amountZero
| memoTooLong
    (a : Amount)
    (m : Memo)
    (hAddress : Address.check n r.address = .ok ())
    (hAmount : Amount.ofText r.amountText = .ok a)
    (hPositive : 0 < a.units)
    (hMemo : r.memo = some m)
    (hLong : Memo.mostBytes < m.size) :
    r.IsAtFault n (.memoTooLong m.size Memo.mostBytes)
| memoInvalid
    (a : Amount)
    (m : Memo)
    (hAddress : Address.check n r.address = .ok ())
    (hAmount : Amount.ofText r.amountText = .ok a)
    (hPositive : 0 < a.units)
    (hMemo : r.memo = some m)
    (hShort : m.size ≤ Memo.mostBytes)
    (hUnsendable : ¬ m.IsSendable) :
    r.IsAtFault n .memoInvalid

variable {n : Network} {r : Recipient} {fault : Fault}

------------------------------------------------------------
-- What Is Reported
------------------------------------------------------------

/- Nothing is wrong with an address that is accepted. -/
private theorem addressFault?_of_check
    (h : Address.check n r.address = .ok ()) :
    r.addressFault? n = none := by
  unfold addressFault?
  rw [h]

/- An amount that can be read was entered. -/
private theorem not_allBlank_of_ofText
    {s : String}
    {a : Amount}
    (h : Amount.ofText s = .ok a) :
    ¬ Text.AllBlank s := by
  intro hBlank
  rw [ofText_of_allBlank hBlank] at h
  cases h

/- Nothing is wrong with an amount other than zero. -/
private theorem amountFault?_of_ofText
    {a : Amount}
    (h : Amount.ofText r.amountText = .ok a)
    (hPositive : 0 < a.units) :
    r.amountFault? = none :=
  amountFault?_eq_none_iff.mpr ⟨a, h, hPositive⟩

/- A memo that is too long is refused for that. -/
private theorem check_of_long
    {m : Memo}
    (h : Memo.mostBytes < m.size) :
    m.check = .error (.tooLong m.size Memo.mostBytes) :=
  if_pos h

/- Any other memo that cannot be sent is refused for its text. -/
private theorem check_of_short
    {m : Memo}
    (hShort : m.size ≤ Memo.mostBytes)
    (hUnsendable : ¬ m.IsSendable) :
    m.check = .error .controlCharacters := by
  rw [← Memo.check_eq_ok_iff] at hUnsendable
  unfold Memo.check at hUnsendable ⊢
  rw [if_neg (Nat.not_lt.mpr hShort)] at hUnsendable ⊢
  split at hUnsendable
  · exact absurd rfl hUnsendable
  · rename_i hClean
    rw [if_neg hClean]

/- What a row is at fault for is reported. -/
theorem IsAtFault.fault?_eq
    (h : r.IsAtFault n fault) :
    r.fault? n = some fault := by
  unfold fault?
  cases h with
  | addressRequired hAddress =>
      simp [addressFault?, hAddress]
  | badAddress cause hAddress hFilled =>
      simp [addressFault?, hAddress]
  | amountRequired hAddress hAmount =>
      simp [addressFault?_of_check hAddress, amountFault?, hAmount]
  | badAmount cause hAddress hFilled hAmount =>
      simp [addressFault?_of_check hAddress, amountFault?, hFilled,
        hAmount]
  | amountZero a hAddress hAmount hZero =>
      have hFilled := not_allBlank_of_ofText hAmount
      simp [addressFault?_of_check hAddress, amountFault?, hFilled,
        hAmount, Amount.IsZero, hZero]
  | memoTooLong a m hAddress hAmount hPositive hMemo hLong =>
      simp [addressFault?_of_check hAddress,
        amountFault?_of_ofText hAmount hPositive, memoFault?, hMemo,
        check_of_long hLong, Fault.ofMemoError]
  | memoInvalid a m hAddress hAmount hPositive hMemo hShort
      hUnsendable =>
      simp [addressFault?_of_check hAddress,
        amountFault?_of_ofText hAmount hPositive, memoFault?, hMemo,
        check_of_short hShort hUnsendable, Fault.ofMemoError]

/- What is reported of the address is the fault of the row. -/
private theorem isAtFault_of_addressFault?
    (h : r.addressFault? n = some fault) :
    r.IsAtFault n fault := by
  unfold addressFault? at h
  split at h
  · cases h
  · rename_i hAddress
    cases h
    exact .addressRequired hAddress
  · rename_i cause hFilled hAddress
    cases h
    exact .badAddress cause hAddress hFilled

/- Behind a good address the amount is the fault of the row. -/
private theorem isAtFault_of_amountFault?
    (hAddress : Address.check n r.address = .ok ())
    (h : r.amountFault? = some fault) :
    r.IsAtFault n fault := by
  unfold amountFault? at h
  split at h
  · rename_i hBlank
    cases h
    exact .amountRequired hAddress hBlank
  · rename_i hFilled
    split at h
    · rename_i a hAmount
      split at h
      · rename_i hZero
        cases h
        exact .amountZero a hAddress hAmount hZero
      · cases h
    · rename_i cause hAmount
      cases h
      exact .badAmount cause hAddress hFilled hAmount

/- Behind these the memo is the fault of the row. -/
private theorem isAtFault_of_memoFault?
    {a : Amount}
    (hAddress : Address.check n r.address = .ok ())
    (hAmount : Amount.ofText r.amountText = .ok a)
    (hPositive : 0 < a.units)
    (h : r.memoFault? = some fault) :
    r.IsAtFault n fault := by
  unfold memoFault? at h
  split at h
  · cases h
  · rename_i m hMemo
    by_cases hLong : Memo.mostBytes < m.size
    · rw [check_of_long hLong] at h
      cases h
      exact .memoTooLong a m hAddress hAmount hPositive hMemo hLong
    · have hShort := Nat.not_lt.mp hLong
      by_cases hSendable : m.IsSendable
      · rw [Memo.check_eq_ok_iff.mpr hSendable] at h
        cases h
      · rw [check_of_short hShort hSendable] at h
        cases h
        exact
          .memoInvalid a m hAddress hAmount hPositive hMemo hShort
            hSendable

/- What is reported of a row is exactly what it is at fault for. -/
theorem fault?_eq_some_iff :
    r.fault? n = some fault ↔ r.IsAtFault n fault := by
  refine ⟨fun h => ?_, IsAtFault.fault?_eq⟩
  unfold fault? at h
  cases hAddressFault : r.addressFault? n with
  | some found =>
      rw [hAddressFault] at h
      cases h
      exact isAtFault_of_addressFault? hAddressFault
  | none =>
      rw [hAddressFault, Option.none_or] at h
      have hAddress : Address.check n r.address = .ok () :=
        Address.check_eq_ok_iff.mpr
          (addressFault?_eq_none_iff.mp hAddressFault)
      cases hAmountFault : r.amountFault? with
      | some found =>
          rw [hAmountFault] at h
          cases h
          exact isAtFault_of_amountFault? hAddress hAmountFault
      | none =>
          rw [hAmountFault, Option.none_or] at h
          rcases amountFault?_eq_none_iff.mp hAmountFault with
            ⟨a, hAmount, hPositive⟩
          exact isAtFault_of_memoFault? hAddress hAmount hPositive h

/- A row is at fault for one thing at most. -/
theorem IsAtFault.unique
    {other : Fault}
    (h : r.IsAtFault n fault)
    (hOther : r.IsAtFault n other) :
    fault = other :=
  Option.some.inj (h.fault?_eq.symm.trans hOther.fault?_eq)

/- A row that is at fault for something cannot be paid. -/
theorem IsAtFault.not_isPayable
    (h : r.IsAtFault n fault) :
    ¬ r.IsPayable n := by
  intro hPayable
  have hNone : r.fault? n = none :=
    isValid_iff_isPayable.mpr hPayable
  rw [h.fault?_eq] at hNone
  cases hNone

end Recipient

end Remit
