import Remit.Proofs.Composition.Validity
import Remit.Proofs.Payment.CanonicalText

/-
  This file shows that the canonical text of a payment tells all
  that it pays: payments that can be requested have the same
  text exactly when network, scope and fee are the same and so
  are the outputs in order, where no memo is as good as an empty
  one. It rests on addresses, numerals and base64 memos being
  free of the bars and line ends between them.

  Key definitions include:
    * `Output.PaysAs`
    * `Payment.PaysAs`

  Key theorems include:
    * `Output.text_eq_iff`
    * `Payment.outputChars_eq_iff`
    * `Payment.canonicalText_eq_iff`
    * `Composition.fingerprint_tells_payment`
-/

namespace Remit

------------------------------------------------------------
-- Outputs
------------------------------------------------------------

namespace Output

variable {o p : Output}

/- The bytes of the memo; there are none without a memo. -/
def memoBytes (o : Output) : Bytes :=
  match o.memo with
  | some m => m.bytes
  | none => []

/- The same amount for the same address, with the same memo bytes. -/
structure PaysAs (o p : Output) : Prop where
  address_eq : o.address = p.address
  amount_eq : o.amount = p.amount
  memoBytes_eq : o.memoBytes = p.memoBytes

/- The address has small letters and digits only. -/
def IsPlain (o : Output) : Prop :=
  Address.IsPlain o.address.toList

/- No memo is written as an empty one is. -/
theorem memoText_eq
    (o : Output) :
    o.memoText = Base64.encode o.memoBytes := by
  unfold memoText memoBytes
  cases o.memo with
  | none => rfl
  | some m => rfl

/- The parts of an output, each but the last before its bar. -/
theorem toList_text
    (o : Output) :
    o.text.toList =
      o.address.toList ++
        '|' :: ((Numeral.ofNat o.amount.units).toList ++
          '|' :: o.memoText.toList) := by
  simp [text]

/- Outputs with plain addresses are told by what is written. -/
theorem text_eq_iff
    (ho : o.IsPlain)
    (hp : p.IsPlain) :
    o.text = p.text ↔ o.PaysAs p := by
  constructor
  · intro h
    have hList := congrArg String.toList h
    rw [toList_text, toList_text] at hList
    rcases Text.append_sep_inj
        (Address.not_mem_of_isPlain rfl rfl ho)
        (Address.not_mem_of_isPlain rfl rfl hp) hList with
      ⟨hAddress, hList⟩
    rcases Text.append_sep_inj (Numeral.not_mem_ofNat rfl _)
        (Numeral.not_mem_ofNat rfl _) hList with
      ⟨hUnits, hMemo⟩
    have hMemo := String.ext hMemo
    rw [memoText_eq, memoText_eq] at hMemo
    exact
      ⟨String.ext hAddress,
        Amount.ext (Numeral.toList_ofNat_inj hUnits),
        Base64.encode_injective hMemo⟩
  · rintro ⟨hAddress, hAmount, hMemo⟩
    unfold text
    rw [memoText_eq, memoText_eq, hAddress, hAmount, hMemo]

/- The line of an output, without its end. -/
def line (o : Output) : List Char :=
  ("output=" ++ o.text).toList

/- Outputs with plain addresses are told by their lines. -/
theorem line_eq_iff
    (ho : o.IsPlain)
    (hp : p.IsPlain) :
    o.line = p.line ↔ o.PaysAs p := by
  unfold line
  rw [String.toList_inj, String.append_right_inj]
  exact text_eq_iff ho hp

/- What is written of an output with a plain address is one line. -/
theorem not_mem_line
    (ho : o.IsPlain) :
    '\n' ∉ o.line := by
  have hAddress : '\n' ∉ o.address.toList :=
    Address.not_mem_of_isPlain rfl rfl ho
  have hUnits : '\n' ∉ (Numeral.ofNat o.amount.units).toList :=
    Numeral.not_mem_ofNat rfl _
  have hMemo : '\n' ∉ o.memoText.toList := by
    rw [memoText_eq]
    exact Base64.not_mem_encode rfl (by decide) _
  rw [line, String.toList_append, toList_text]
  simp [hAddress, hUnits, hMemo]

/-
  Lists of outputs are told by their lines. The induction is on
  one list, as long as the other.
-/
theorem map_line_eq_iff
    {os ps : List Output}
    (ho : ∀ o ∈ os, o.IsPlain)
    (hp : ∀ p ∈ ps, p.IsPlain) :
    os.map line = ps.map line ↔ List.Forall₂ PaysAs os ps := by
  induction os generalizing ps with
  | nil =>
      cases ps with
      | nil => simp
      | cons p ps => simp
  | cons o os ih =>
      cases ps with
      | nil => simp
      | cons p ps =>
          rcases List.forall_mem_cons.mp ho with ⟨hFirst, ho⟩
          rcases List.forall_mem_cons.mp hp with ⟨hFirst', hp⟩
          rw [List.map_cons, List.map_cons, List.cons.injEq,
            List.forall₂_cons, line_eq_iff hFirst hFirst', ih ho hp]

end Output

------------------------------------------------------------
-- Payments
------------------------------------------------------------

namespace Payment

variable {p q : Payment}

/- The same outputs in order, for the same fee from the same funds. -/
structure PaysAs (p q : Payment) : Prop where
  network_eq : p.network = q.network
  scope_eq : p.scope = q.scope
  fee_eq : p.fee = q.fee
  outputs : List.Forall₂ Output.PaysAs p.outputs q.outputs

/- The characters of the outputs are their lines, each ended. -/
theorem outputChars_eq
    (p : Payment) :
    p.outputChars =
      (p.outputs.map Output.line).flatMap (fun l => l ++ ['\n']) := by
  unfold outputChars
  simp [Output.line, List.flatMap_map]

/- Outputs with plain addresses are told by their characters. -/
theorem outputChars_eq_iff
    (hp : ∀ o ∈ p.outputs, o.IsPlain)
    (hq : ∀ o ∈ q.outputs, o.IsPlain) :
    p.outputChars = q.outputChars ↔
      List.Forall₂ Output.PaysAs p.outputs q.outputs := by
  rw [outputChars_eq, outputChars_eq, ← Output.map_line_eq_iff hp hq]
  constructor
  · apply Text.flatMap_sep_inj
    · exact List.forall_mem_map.mpr
        (fun o ho => Output.not_mem_line (hp o ho))
    · exact List.forall_mem_map.mpr
        (fun o ho => Output.not_mem_line (hq o ho))
  · exact congrArg _

/-
  Payments to plain addresses have the same canonical text
  exactly when they pay the same.
-/
theorem canonicalText_eq_iff
    (hp : ∀ o ∈ p.outputs, o.IsPlain)
    (hq : ∀ o ∈ q.outputs, o.IsPlain) :
    p.canonicalText = q.canonicalText ↔ p.PaysAs q := by
  constructor
  · intro h
    rcases canonicalText_heads h with
      ⟨hNetwork, hScope, hFee, hOutputs⟩
    exact
      ⟨hNetwork, hScope, hFee, (outputChars_eq_iff hp hq).mp hOutputs⟩
  · rintro ⟨hNetwork, hScope, hFee, hOutputs⟩
    apply String.ext
    rw [toList_canonicalText, toList_canonicalText, hNetwork, hScope,
      hFee, (outputChars_eq_iff hp hq).mpr hOutputs]

end Payment

------------------------------------------------------------
-- Requests
------------------------------------------------------------

namespace Composition

/- Whatever is requested is paid to plain addresses. -/
theorem isPlain_of_validate
    {config : Config}
    {c : Composition}
    {r : Request}
    (hc : Reachable config c)
    (hr : c.validate = .ok r) :
    ∀ o ∈ r.payment.outputs, o.IsPlain := by
  rcases validate_eq_ok_iff.mp hr with ⟨hEmpty, rfl⟩
  rcases (isEmpty_problems_iff (sound_of_reachable hc)).mp hEmpty with
    ⟨_, hPayable, _⟩
  intro o ho
  rcases List.mem_map.mp ho with ⟨row, hRow, rfl⟩
  unfold Output.IsPlain
  rw [Text.toList_trim]
  exact Address.isPlain_of_isShielded (hPayable row hRow).address

/-
  Requests, for any two compositions, have the same canonical
  text exactly when they pay the same, and so it is with their
  fingerprints, unless the texts share a digest.
-/
theorem fingerprint_tells_payment
    {config config' : Config}
    {c d : Composition}
    {r s : Request}
    (hc : Reachable config c)
    (hd : Reachable config' d)
    (hr : c.validate = .ok r)
    (hs : d.validate = .ok s) :
    (r.payment.canonicalText = s.payment.canonicalText ↔
        r.payment.PaysAs s.payment) ∧
      (Sha256.Separates
          [r.payment.canonicalText, s.payment.canonicalText] →
        (r.fingerprint = s.fingerprint ↔
          r.payment.PaysAs s.payment)) := by
  have hText :
      r.payment.canonicalText = s.payment.canonicalText ↔
        r.payment.PaysAs s.payment :=
    Payment.canonicalText_eq_iff (isPlain_of_validate hc hr)
      (isPlain_of_validate hd hs)
  refine ⟨hText, fun hSeparates => ?_⟩
  rw [← hText, fingerprint_of_validate hr, fingerprint_of_validate hs]
  constructor
  · exact
      Payment.canonicalText_of_fingerprint hSeparates (by simp)
        (by simp)
  · intro hSame
    unfold Payment.fingerprint
    rw [hSame]

------------------------------------------------------------
-- No Memo and an Empty Memo
------------------------------------------------------------

/- The one row to be paid, with or without a memo. -/
def affluent (memo : Option Memo) : Composition :=
  after (Config.ofNetwork .mainnet)
    [.balance ⟨.supply, .zero⟩,
     .entry (.add { specimen with memo := memo })]

/- It can be paid without a memo as well as with an empty one. -/
private theorem validate_affluent :
    ∀ memo ∈ [none, some ⟨[]⟩],
      (affluent memo).problems.IsEmpty := by
  decide +kernel

/- Requests that are not the same may pay the same. -/
theorem fingerprint_tells_payment_empty :
    ∃ r s,
      (affluent none).validate = .ok r ∧
        (affluent (some ⟨[]⟩)).validate = .ok s ∧
        r.payment ≠ s.payment ∧
        r.payment.canonicalText = s.payment.canonicalText ∧
        r.payment.PaysAs s.payment ∧
        r.fingerprint = s.fingerprint := by
  have hr :=
    validate_eq_ok_iff.mpr
      ⟨validate_affluent none (by simp), rfl⟩
  have hs :=
    validate_eq_ok_iff.mpr
      ⟨validate_affluent (some ⟨[]⟩) (by simp), rfl⟩
  have hTexts :
      (affluent none).payment.canonicalText =
        (affluent (some ⟨[]⟩)).payment.canonicalText := by
    decide +kernel
  have hDiffer :
      (affluent none).payment ≠ (affluent (some ⟨[]⟩)).payment := by
    decide +kernel
  have hTells :=
    fingerprint_tells_payment (reachable_after _ _)
      (reachable_after _ _) hr hs
  have hSame := hTells.1.mp hTexts
  have hSeparates := Sha256.separates_pair hTexts
  exact
    ⟨_, _, hr, hs, hDiffer, hTexts, hSame,
      (hTells.2 hSeparates).mpr hSame⟩

end Composition

end Remit
