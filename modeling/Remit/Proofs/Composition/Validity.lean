import Mathlib.Data.List.Forall2
import Remit.Proofs.Composition.History
import Remit.Proofs.Composition.Totals
import Remit.Proofs.Fee.Bounds
import Remit.Proofs.Recipient.Validity

/-
  This file shows which compositions can be paid: those that
  have rows, all of them payable, and whose exact total is
  within what can be spent. The request for one pays exactly its
  rows.

  Key definitions include:
    * `Composition.exactOut`
    * `Composition.payableRows`
    * `Composition.IsPaidBy`

  Key theorems include:
    * `Composition.isEmpty_problems_iff`
    * `Composition.request_eq`
    * `Composition.validate_after`
-/

namespace Remit

namespace Composition

------------------------------------------------------------
-- Problems
------------------------------------------------------------

/- What a row is paid, zero if its amount cannot be read. -/
def paid (r : Recipient) : Amount :=
  r.amount?.getD .zero

/- A row is paid the amount that its text denotes. -/
theorem paid_of_ofText
    {r : Recipient}
    {a : Amount}
    (h : Amount.ofText r.amountText = .ok a) :
    paid r = a := by
  unfold paid Recipient.amount?
  rw [h]
  rfl

/- The exact sum of what all rows are paid and of the fee. -/
def exactOut (c : Composition) : Nat :=
  Amount.total (c.rows.map paid) + c.fee.units

/- The outputs are paid what the rows are. -/
theorem amounts_outputs
    (c : Composition) :
    c.outputs.map Output.amount = c.rows.map paid := by
  unfold outputs
  rw [List.map_map]
  rfl

/- No row has an issue exactly when all rows are valid. -/
theorem rowIssues_eq_nil_iff
    {config : Config}
    {c : Composition}
    (hc : Sound config c) :
    c.rowIssues = [] ↔ ∀ r ∈ c.rows, r.IsValid config.network := by
  unfold rowIssues
  rw [hc.outcome_eq, List.filterMap_eq_nil_iff]
  change (∀ entry ∈ c.inputs.faults.zipIdx, _) ↔ _
  simp only [Option.map_eq_none_iff]
  rw [Inputs.faults, hc.config_eq]
  constructor
  · intro h r hr
    rcases List.mem_iff_getElem.mp hr with ⟨k, hk, hGet⟩
    have hMem :
        (r.fault? config.network, k) ∈
          (c.rows.map (fun r => r.fault? config.network)).zipIdx := by
      rw [List.mem_zipIdx_iff_getElem?]
      simp [List.getElem?_eq_getElem hk, hGet]
    exact h _ hMem
  · intro h entry hEntry
    have hFault := List.fst_mem_of_mem_zipIdx hEntry
    rcases List.mem_map.mp hFault with ⟨r, hr, hEq⟩
    rw [← hEq]
    exact h r hr

/- The rows that can be paid on a network. -/
def payableRows (n : Network) (c : Composition) : List Recipient :=
  c.rows.filter (fun r => r.IsPayable n)

/- What counts in the total is what the payable rows are paid. -/
theorem validAmounts_eq
    {config : Config}
    {c : Composition}
    (hc : Sound config c) :
    c.inputs.validAmounts =
      (c.payableRows config.network).map paid := by
  have hFilter :
      c.rows.filter (fun r => r.IsValid config.network) =
        c.payableRows config.network := by
    unfold payableRows
    simp only [Recipient.isValid_iff_isPayable]
  have hAmounts :
      ∀ r ∈ c.payableRows config.network,
        r.amount? = some (paid r) := by
    intro r hr
    have hPayable := of_decide_eq_true (List.mem_filter.mp hr).2
    rcases hPayable.amount?_eq_some with ⟨a, ha⟩
    rw [paid, ha]
    rfl
  unfold Inputs.validAmounts
  rw [hc.config_eq]
  change (c.rows.filter _).filterMap _ = _
  rw [hFilter, ← List.filterMap_eq_map]
  exact List.filterMap_congr hAmounts

/- If all rows are valid, all that they are paid counts. -/
theorem validAmounts_of_valid
    {config : Config}
    {c : Composition}
    (hc : Sound config c)
    (hValid : ∀ r ∈ c.rows, r.IsValid config.network) :
    c.inputs.validAmounts = c.rows.map paid := by
  have hPayable :
      ∀ r ∈ c.rows, decide (r.IsPayable config.network) = true :=
    fun r hr =>
      decide_eq_true (Recipient.isValid_iff_isPayable.mp (hValid r hr))
  have hAll : c.payableRows config.network = c.rows :=
    List.filter_eq_self.mpr hPayable
  rw [validAmounts_eq hc, hAll]

/- If all rows are valid, the inputs come to the exact total. -/
theorem exactOut_inputs
    {config : Config}
    {c : Composition}
    (hc : Sound config c)
    (hValid : ∀ r ∈ c.rows, r.IsValid config.network) :
    c.inputs.exactOut = c.exactOut := by
  unfold Inputs.exactOut exactOut fee
  rw [validAmounts_of_valid hc hValid, hc.outcome_eq]
  rfl

/-
  Nothing keeps a composition from being paid exactly when it
  has rows, all of them can be paid, and the exact total is
  within what can be spent.
-/
theorem isEmpty_problems_iff
    {config : Config}
    {c : Composition}
    (hc : Sound config c) :
    c.problems.IsEmpty ↔
      c.rows ≠ [] ∧
        (∀ r ∈ c.rows, r.IsPayable config.network) ∧
        c.exactOut ≤ c.balance.spendable.units := by
  have hCap := c.balance.spendable.units_le
  have hPayable :
      (∀ r ∈ c.rows, r.IsValid config.network) ↔
        ∀ r ∈ c.rows, r.IsPayable config.network := by
    simp only [Recipient.isValid_iff_isPayable]
  unfold Problems.IsEmpty problems
  rw [hc.outcome_eq]
  change _ ∧ c.inputs.shortfall? = none ↔ _
  simp only [List.append_eq_nil_iff, and_assoc,
    rowIssues_eq_nil_iff hc, ← hPayable]
  rw [Inputs.shortfall?_eq_none_iff]
  change _ ∧ _ ∧
    (if c.inputs.totals.overflow = true then _ else _) = [] ∧
      _ ↔ _
  have hRows :
      (if c.rows = [] then
          [(⟨none, .noRecipients⟩ : Issue)]
        else
          []) = [] ↔ c.rows ≠ [] := by
    split <;> simp_all
  have hOverflow :
      (if c.inputs.totals.overflow = true then
          [(⟨none, .totalTooLarge⟩ : Issue)]
        else
          []) = [] ↔ c.inputs.exactOut ≤ Amount.cap := by
    rw [← Nat.not_lt, ← Inputs.totals_overflow_iff]
    split <;> simp_all
  rw [hRows, hOverflow]
  refine and_congr_right (fun hNonempty => ?_)
  refine and_congr_right (fun hValid => ?_)
  have hAmounts := validAmounts_of_valid hc hValid
  have hSome : c.inputs.validAmounts ≠ [] := by
    rw [hAmounts]
    simpa using hNonempty
  rw [exactOut_inputs hc hValid]
  change _ ∧ (_ ∨ _ ≤ c.balance.spendable.units) ↔ _
  simp only [hSome, false_or]
  omega

/- The total of a composition that can be paid is exact. -/
theorem units_out
    {config : Config}
    {c : Composition}
    (hc : Sound config c)
    (hEmpty : c.problems.IsEmpty) :
    c.outcome.totals.out.units = c.exactOut := by
  rcases (isEmpty_problems_iff hc).mp hEmpty with
    ⟨_, hPayable, hAffordable⟩
  have hValid : ∀ r ∈ c.rows, r.IsValid config.network :=
    fun r h => Recipient.isValid_iff_isPayable.mpr (hPayable r h)
  have hCap := c.balance.spendable.units_le
  rw [hc.outcome_eq]
  change c.inputs.totals.out.units = c.exactOut
  rw [Inputs.units_totals_out, exactOut_inputs hc hValid]
  omega

/- It is within what can be spent. -/
theorem out_le_spendable
    {config : Config}
    {c : Composition}
    (hc : Sound config c)
    (hEmpty : c.problems.IsEmpty) :
    c.outcome.totals.out ≤ c.balance.spendable := by
  rw [Amount.le_iff, units_out hc hEmpty]
  exact ((isEmpty_problems_iff hc).mp hEmpty).2.2

------------------------------------------------------------
-- Requests
------------------------------------------------------------

/-
  A request pays a composition: one output for each row in
  order, to the trimmed address, with the exact amount and the
  memo of the row; the fee that is selected, which is within the
  bounds for as many rows; and as the total the exact sum of the
  amounts of all rows and of that fee.
-/
structure IsPaidBy
    (config : Config)
    (c : Composition)
    (r : Request) : Prop where
  one_le : 1 ≤ r.payment.outputs.length
  le_most : r.payment.outputs.length ≤ config.maxRecipients
  outputs :
    List.Forall₂
      (fun (row : Recipient) (o : Output) =>
        o.address = Text.trim row.address ∧
          Amount.ofText row.amountText = .ok o.amount ∧
          o.memo = row.memo)
      c.rows r.payment.outputs
  fee_eq : r.payment.fee = c.fee
  least_le_fee :
    (config.feePolicy c.inputs.bounds).leastFee c.rows.length ≤
      r.payment.fee
  fee_le_most :
    r.payment.fee ≤ (config.feePolicy c.inputs.bounds).mostFee
  out_eq : r.totalOut.units = c.exactOut
  total :
    r.totalOut.units =
      Amount.total (r.payment.outputs.map Output.amount) +
        r.payment.fee.units

/- The request of a composition without problems. -/
theorem validate_eq_ok_iff
    {c : Composition}
    {r : Request} :
    c.validate = .ok r ↔
      c.problems.IsEmpty ∧
        r = ⟨c.payment, c.outcome.totals.out, c.fingerprint⟩ := by
  unfold validate
  split
  · rename_i h
    simp only [Except.ok.injEq]
    exact ⟨fun hr => ⟨h, hr.symm⟩, fun hr => hr.2.symm⟩
  · rename_i h
    simp [h]

/- There is a request exactly if there are no problems. -/
theorem exists_validate_iff
    {c : Composition} :
    (∃ r, c.validate = .ok r) ↔ c.problems.IsEmpty := by
  simp only [validate_eq_ok_iff]
  exact ⟨fun ⟨_, h, _⟩ => h, fun h => ⟨_, h, rfl⟩⟩

/- A request has the fingerprint of its payment. -/
theorem fingerprint_of_validate
    {c : Composition}
    {r : Request}
    (hr : c.validate = .ok r) :
    r.fingerprint = r.payment.fingerprint := by
  rcases validate_eq_ok_iff.mp hr with ⟨_, rfl⟩
  rfl

/- The fee of a sound composition is within its bounds. -/
theorem fee_bounds
    {config : Config}
    {c : Composition}
    (hc : Sound config c) :
    (config.feePolicy c.inputs.bounds).leastFee c.rows.length ≤
        c.fee ∧
      c.fee ≤ (config.feePolicy c.inputs.bounds).mostFee := by
  unfold fee
  rw [hc.outcome_eq, ← hc.config_eq]
  exact
    ⟨FeePolicy.leastFee_le_clamp _ _ _,
      FeePolicy.clamp_le_mostFee _ _ _⟩

/- Rows that can be paid are paid as they were entered. -/
theorem forall₂_outputs
    {n : Network}
    {c : Composition}
    (hPayable : ∀ r ∈ c.rows, r.IsPayable n) :
    List.Forall₂
      (fun (row : Recipient) (o : Output) =>
        o.address = Text.trim row.address ∧
          Amount.ofText row.amountText = .ok o.amount ∧
          o.memo = row.memo)
      c.rows c.outputs := by
  unfold outputs
  rw [List.forall₂_map_right_iff, List.forall₂_same]
  intro row hRow
  rcases (hPayable row hRow).amount with ⟨a, hText, _⟩
  refine ⟨rfl, ?_, rfl⟩
  simp [Recipient.amount?, hText, Except.toOption]

/- The request for a sound composition pays it. -/
theorem isPaidBy_of_validate
    {config : Config}
    {c : Composition}
    {r : Request}
    (hc : Sound config c)
    (hr : c.validate = .ok r) :
    c.IsPaidBy config r := by
  rcases validate_eq_ok_iff.mp hr with ⟨hEmpty, rfl⟩
  rcases (isEmpty_problems_iff hc).mp hEmpty with
    ⟨hRows, hPayable, _⟩
  have hLength : c.outputs.length = c.rows.length := by
    unfold outputs
    exact List.length_map _
  have hFee := fee_bounds hc
  have hOut := units_out hc hEmpty
  refine
    { one_le := ?_
      le_most := ?_
      outputs := forall₂_outputs hPayable
      fee_eq := rfl
      least_le_fee := hFee.1
      fee_le_most := hFee.2
      out_eq := hOut
      total := ?_ }
  · change 1 ≤ c.outputs.length
    rw [hLength]
    exact List.length_pos_iff.mpr hRows
  · change c.outputs.length ≤ _
    rw [hLength]
    exact hc.length_le
  · change c.outcome.totals.out.units =
      Amount.total (c.outputs.map Output.amount) + c.fee.units
    rw [amounts_outputs]
    exact hOut

/- Requests for the same payment are the same. -/
theorem request_eq
    {config : Config}
    {c d : Composition}
    {r s : Request}
    (hc : Sound config c)
    (hd : Sound config d)
    (hr : c.validate = .ok r)
    (hs : d.validate = .ok s)
    (h : r.payment = s.payment) :
    r = s := by
  have hrTotal := (isPaidBy_of_validate hc hr).total
  have hsTotal := (isPaidBy_of_validate hd hs).total
  have hTotal : r.totalOut = s.totalOut := by
    apply Amount.ext
    rw [hrTotal, hsTotal, h]
  have hFingerprint : r.fingerprint = s.fingerprint := by
    rw [fingerprint_of_validate hr, fingerprint_of_validate hs, h]
  cases r
  cases s
  cases h
  cases hTotal
  cases hFingerprint
  rfl

/-
  A composition without problems is valid with any request for
  the same payment.
-/
theorem validate_of_payment
    {config : Config}
    {c d : Composition}
    {r : Request}
    (hc : Sound config c)
    (hd : Sound config d)
    (hr : c.validate = .ok r)
    (hEmpty : d.problems.IsEmpty)
    (h : r.payment = d.payment) :
    d.validate = .ok r := by
  have hValid := validate_eq_ok_iff.mpr ⟨hEmpty, rfl⟩
  rw [request_eq hc hd hr hValid h]
  exact hValid

/- A request is made on the configured network. -/
theorem network_of_validate
    {config : Config}
    {c : Composition}
    {r : Request}
    (hc : Sound config c)
    (hr : c.validate = .ok r) :
    r.payment.network = config.network := by
  rcases validate_eq_ok_iff.mp hr with ⟨_, rfl⟩
  exact congrArg Config.network hc.config_eq

/-
  After any edits, taken or refused, there is a request exactly
  when the composition has rows, all of them can be paid on the
  configured network, and the exact sum of their amounts and of
  the fee is within what can be spent; and the request pays the
  composition.
-/
theorem validate_after
    (config : Config)
    (edits : List Edit) :
    ((∃ r, (after config edits).validate = .ok r) ↔
        (after config edits).rows ≠ [] ∧
          (∀ row ∈ (after config edits).rows,
            row.IsPayable config.network) ∧
          (after config edits).exactOut ≤
            (after config edits).balance.spendable.units) ∧
      ∀ r, (after config edits).validate = .ok r →
        (after config edits).IsPaidBy config r := by
  have hSound := sound_of_reachable (reachable_after config edits)
  refine ⟨?_, fun r hr => isPaidBy_of_validate hSound hr⟩
  rw [← isEmpty_problems_iff hSound]
  simp only [validate_eq_ok_iff]
  exact ⟨fun ⟨_, h, _⟩ => h, fun h => ⟨_, h, rfl⟩⟩

/- A row that is paid one and a half coins on the main network. -/
def specimen : Recipient where
  address :=
    "zs1qqqqqqqqqqqqqqqqqqqqqqqqqqqqqqqqqqqqqqqqqqqqqqqqqqqqqqqqqqq"
      ++ "qqqqqqqqqqqqqqqq"
  amountText := "1.5"
  memo := none
  label := none

/- An edit that is refused, the row, and a balance to pay it from. -/
def specimenEdits : List Edit :=
  [.entry (.remove 0), .entry (.add specimen),
   .balance ⟨.supply, .zero⟩]

/- Those edits, and twice the usual fee, which is the least. -/
def generousEdits : List Edit :=
  specimenEdits ++ [.entry (.preset .high)]

/-
  There is a request for the row, and it pays it with the fee
  that is selected: twice the least one.
-/
theorem validate_after_specimen :
    ∃ r,
      (after (Config.ofNetwork .mainnet) generousEdits).validate =
          .ok r ∧
        (after (Config.ofNetwork .mainnet) generousEdits).IsPaidBy
          (Config.ofNetwork .mainnet) r ∧
        r.payment.fee.units = 20000 ∧
        r.totalOut.units = 150020000 := by
  have hEmpty :
      (after (Config.ofNetwork .mainnet)
        generousEdits).problems.IsEmpty := by
    decide +kernel
  have hFee :
      (after (Config.ofNetwork .mainnet) generousEdits).fee.units =
        20000 := by
    decide +kernel
  have hOut :
      (after (Config.ofNetwork .mainnet) generousEdits).exactOut =
        150020000 := by
    decide +kernel
  have hValid := validate_eq_ok_iff.mpr ⟨hEmpty, rfl⟩
  have hPaid :=
    (validate_after (Config.ofNetwork .mainnet) generousEdits).2 _
      hValid
  refine ⟨_, hValid, hPaid, ?_, ?_⟩
  · rw [hPaid.fee_eq]
    exact hFee
  · rw [hPaid.out_eq]
    exact hOut

end Composition

end Remit
