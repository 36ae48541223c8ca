import Remit.Proofs.Amount.Writing
import Remit.Proofs.Composition.InPlace
import Remit.Proofs.Composition.Validity

/-
  This file shows what the most is that a row can be paid: what
  the fee and the other rows leave of the balance. Once it is
  written into the row it stays the most; and if it is not zero
  the composition can be paid as far as money goes, while any
  larger amount exceeds the balance.

  Key definitions include:
    * `Composition.others`
    * `Composition.left`
    * `Composition.withAmount`
    * `Composition.HoldsMost`

  Key theorems include:
    * `Composition.mostFor_eq_left`
    * `Composition.exactOut_withAmount`
    * `Composition.applyMost_holdsMost`
-/

namespace Remit

namespace Composition

variable {config : Config} {c : Composition} {row : Nat}

------------------------------------------------------------
-- What Is Left for a Row
------------------------------------------------------------

/- The exact sum of the amounts that the other rows have. -/
def others (c : Composition) (row : Nat) : Nat :=
  Amount.total ((c.rows.eraseIdx row).filterMap Recipient.amount?)

/-
  What the fee and the other rows leave of the balance, below
  zero if they exceed it.
-/
def left (c : Composition) (row : Nat) : Int :=
  c.balance.spendable.units - c.fee.units - c.others row

/-
  The most is what is left, or zero if that is below zero. A sum
  of the other rows that is stopped at the supply leaves nothing
  either way: there is never more to spend than that.
-/
theorem mostFor_eq_left
    (hRow : row < c.rows.length) :
    ∃ most,
      c.mostFor row = .ok most ∧
        (most.units : Int) = max 0 (c.left row) := by
  refine ⟨_, if_pos hRow, ?_⟩
  have hOthers := Amount.units_sumCapped
    ((c.rows.eraseIdx row).filterMap Recipient.amount?)
  have hSpendable := c.balance.spendable.units_le
  rw [Amount.units_subFloored, Amount.units_subFloored, othersTotal,
    hOthers, left, others]
  omega

/- Rows without an amount are paid nothing. -/
theorem total_amounts
    (rows : List Recipient) :
    Amount.total (rows.filterMap Recipient.amount?) =
      Amount.total (rows.map paid) := by
  induction rows with
  | nil => rfl
  | cons r rows ih =>
      rw [List.map_cons, Amount.total_cons, ← ih, paid]
      cases hAmount : r.amount? with
      | none =>
          rw [List.filterMap_cons_none hAmount]
          exact (Nat.zero_add _).symm
      | some a =>
          rw [List.filterMap_cons_some hAmount, Amount.total_cons]
          rfl

/- What all rows are paid is what one is paid and the others are. -/
theorem total_paid
    {r : Recipient}
    (hRow : c.rows[row]? = some r) :
    Amount.total (c.rows.map paid) = (paid r).units + c.others row := by
  rcases List.getElem?_eq_some_iff.mp hRow with ⟨hLess, hGet⟩
  have hPerm := List.getElem_cons_eraseIdx_perm hLess
  rw [hGet] at hPerm
  rw [others, total_amounts, ← Amount.total_cons, ← List.map_cons]
  exact (Amount.total_perm (hPerm.map paid)).symm

/- What counts in the total is at most what all rows are paid. -/
theorem inputs_exactOut_le
    (hc : Sound config c) :
    c.inputs.exactOut ≤ c.exactOut := by
  have hSome : (c.payableRows config.network).Sublist c.rows :=
    List.filter_sublist
  have hTotal := Amount.total_le_of_sublist (hSome.map paid)
  unfold Inputs.exactOut exactOut fee
  rw [validAmounts_eq hc, hc.outcome_eq]
  exact Nat.add_le_add_right hTotal _

/- Money is no problem if the balance covers all there is to pay. -/
theorem affordable_of_exactOut_le
    (hc : Sound config c)
    (h : c.exactOut ≤ c.balance.spendable.units) :
    c.outcome.shortfall = none ∧ c.outcome.totals.overflow = false := by
  have hOut := Nat.le_trans (inputs_exactOut_le hc) h
  have hSpendable := c.balance.spendable.units_le
  rw [hc.outcome_eq]
  constructor
  · apply (Inputs.shortfall?_eq_none_iff c.inputs).mpr
    exact Or.inr (Nat.le_trans (Nat.min_le_left _ _) hOut)
  · change c.inputs.totals.overflow = false
    rw [← Bool.not_eq_true, Inputs.totals_overflow_iff]
    omega

------------------------------------------------------------
-- Writing an Amount
------------------------------------------------------------

/- The composition with another amount written into a row. -/
def withAmount
    (c : Composition)
    (row : Nat)
    (text : String) : Composition :=
  c.setRows (c.rows.modify row ({ · with amountText := text }))

section Written

variable {text : String}

/- The amount of a row that is there can be written. -/
theorem enter_amount_eq_ok
    (hRow : row < c.rows.length) :
    c.enter (.amount row text) = .ok (c.withAmount row text) :=
  if_pos hRow

/- No row is gained or lost. -/
theorem length_rows_withAmount :
    (c.withAmount row text).rows.length = c.rows.length :=
  List.length_modify _ _ _

/- The fee depends on how many rows there are. -/
theorem fee_withAmount
    (hc : Sound config c) :
    (c.withAmount row text).fee = c.fee := by
  unfold fee
  rw [hc.outcome_eq]
  change
    (FeeSelection.ofPolicy _ _ _
      (c.rows.modify row _).length).selected = _
  rw [List.length_modify]
  rfl

/- The row has the text. -/
theorem getElem?_withAmount
    {r : Recipient}
    (hRow : c.rows[row]? = some r) :
    (c.withAmount row text).rows[row]? =
      some { r with amountText := text } := by
  change (c.rows.modify row _)[row]? = _
  rw [List.getElem?_modify, hRow]
  simp

/- The other rows are as they were. -/
theorem eraseIdx_withAmount :
    (c.withAmount row text).rows.eraseIdx row = c.rows.eraseIdx row :=
  List.eraseIdx_modify_of_eq _ _ _

/- Only the last text that is written stays. -/
theorem withAmount_withAmount
    {later : String} :
    (c.withAmount row text).withAmount row later =
      c.withAmount row later := by
  change c.setRows ((c.rows.modify row _).modify row _) = _
  rw [List.modify_modify_eq]
  rfl

/- The most for a row does not depend on its own amount. -/
theorem mostFor_withAmount
    (hc : Sound config c) :
    (c.withAmount row text).mostFor row = c.mostFor row := by
  unfold mostFor othersTotal
  rw [eraseIdx_withAmount, length_rows_withAmount, fee_withAmount hc]
  rfl

/- There is to pay what the text says, the other rows and the fee. -/
theorem exactOut_withAmount
    {a : Amount}
    (hc : Sound config c)
    (hRow : row < c.rows.length)
    (hText : Amount.ofText text = .ok a) :
    (c.withAmount row text).exactOut =
      a.units + c.others row + c.fee.units := by
  have hGet := List.getElem?_eq_getElem hRow
  have hPaid : paid { c.rows[row] with amountText := text } = a :=
    paid_of_ofText hText
  unfold exactOut
  rw [total_paid (getElem?_withAmount hGet), hPaid, fee_withAmount hc,
    others, eraseIdx_withAmount]
  rfl

end Written

------------------------------------------------------------
-- Writing the Most
------------------------------------------------------------

/-
  A row of a composition was given the most that it can be paid.
  The fee and the balance are as they were; the row reads as the
  most, and is given the same again. A most that is not zero can
  be afforded, and if all rows are valid then, a request spends
  the whole balance. There is no request with any larger amount
  in the row.
-/
structure HoldsMost
    (config : Config)
    (c d : Composition)
    (row : Nat)
    (most : Amount) : Prop where
  fee_eq : d.fee = c.fee
  balance_eq : d.balance = c.balance
  reads :
    ∃ r, d.rows[row]? = some r ∧ Amount.ofText r.amountText = .ok most
  again : (Composer.applyMost row).run d = .ok most d
  affordable :
    0 < most.units →
      d.outcome.shortfall = none ∧ d.outcome.totals.overflow = false
  spends_all :
    0 < most.units →
      (∀ r ∈ d.rows, r.IsValid config.network) →
        ∃ request,
          d.validate = .ok request ∧
            request.totalOut = d.balance.spendable
  no_more :
    ∀ text a,
      Amount.ofText text = .ok a →
        most < a →
          ∃ e problems,
            d.enter (.amount row text) = .ok e ∧
              e.validate = .error problems

variable {most : Amount}

/- With a most that is not zero, the whole balance is to be paid. -/
theorem exactOut_most
    (hc : Sound config c)
    (hRow : row < c.rows.length)
    (hLeft : (most.units : Int) = max 0 (c.left row))
    (hPos : 0 < most.units) :
    (c.withAmount row most.shortText).exactOut =
      c.balance.spendable.units := by
  rw [exactOut_withAmount hc hRow (Amount.ofText_shortText most)]
  unfold left at hLeft
  omega

/- Valid rows that come to the whole balance spend all of it. -/
theorem exists_request
    (hc : Sound config c)
    (hRows : c.rows ≠ [])
    (hValid : ∀ r ∈ c.rows, r.IsValid config.network)
    (h : c.exactOut = c.balance.spendable.units) :
    ∃ request,
      c.validate = .ok request ∧
        request.totalOut = c.balance.spendable := by
  have hPayable : ∀ r ∈ c.rows, r.IsPayable config.network :=
    fun r hr => Recipient.isValid_iff_isPayable.mp (hValid r hr)
  have hEmpty :=
    (isEmpty_problems_iff hc).mpr ⟨hRows, hPayable, Nat.le_of_eq h⟩
  refine ⟨_, validate_eq_ok_iff.mpr ⟨hEmpty, rfl⟩, ?_⟩
  exact Amount.ext ((units_out hc hEmpty).trans h)

/- Rows that come to more than the balance are not paid. -/
theorem exists_problems
    (hc : Sound config c)
    (h : c.balance.spendable.units < c.exactOut) :
    ∃ problems, c.validate = .error problems := by
  have hSome : ¬ c.problems.IsEmpty := fun hEmpty =>
    Nat.not_le.mpr h ((isEmpty_problems_iff hc).mp hEmpty).2.2
  exact ⟨c.problems, if_neg hSome⟩

/- A row that is written the most holds it. -/
theorem holdsMost_withAmount
    (hc : Sound config c)
    (hRow : row < c.rows.length)
    (hMost : c.mostFor row = .ok most)
    (hLeft : (most.units : Int) = max 0 (c.left row)) :
    c.HoldsMost config (c.withAmount row most.shortText) row most := by
  have hd : Sound config (c.withAmount row most.shortText) :=
    hc.enter (enter_amount_eq_ok hRow)
  have hRow' : row < (c.withAmount row most.shortText).rows.length := by
    rwa [length_rows_withAmount]
  refine ⟨fee_withAmount hc, rfl, ?_, ?_, ?_, ?_, ?_⟩
  · have hGet := List.getElem?_eq_getElem hRow
    exact ⟨_, getElem?_withAmount hGet, Amount.ofText_shortText most⟩
  · rw [Composer.run_applyMost, mostFor_withAmount hc, hMost]
    exact congrArg (EStateM.Result.ok most) withAmount_withAmount
  · intro hPos
    have hOut := exactOut_most hc hRow hLeft hPos
    exact affordable_of_exactOut_le hd (Nat.le_of_eq hOut)
  · intro hPos hValid
    have hSome := List.ne_nil_of_length_pos (Nat.zero_lt_of_lt hRow')
    have hOut := exactOut_most hc hRow hLeft hPos
    exact exists_request hd hSome hValid hOut
  · intro text a hText hMore
    have hEnter :
        (c.withAmount row most.shortText).enter (.amount row text) =
          .ok (c.withAmount row text) := by
      rw [enter_amount_eq_ok hRow', withAmount_withAmount]
    have hOut := exactOut_withAmount hc hRow hText
    rw [Amount.lt_iff] at hMore
    have hExceeds :
        c.balance.spendable.units <
          (c.withAmount row text).exactOut := by
      unfold left at hLeft
      omega
    rcases exists_problems (hd.enter hEnter) hExceeds with
      ⟨problems, hError⟩
    exact ⟨_, problems, hEnter, hError⟩

/-
  Whatever was entered, the most for a row is what the fee and
  the other rows leave of the balance, and a row that is given
  the most holds it.
-/
theorem applyMost_holdsMost
    (hc : Reachable config c)
    (hRow : row < c.rows.length) :
    ∃ most,
      c.mostFor row = .ok most ∧
        (most.units : Int) = max 0 (c.left row) ∧
        ∃ d,
          (Composer.applyMost row).run c = .ok most d ∧
            c.HoldsMost config d row most := by
  have hSound := sound_of_reachable hc
  rcases mostFor_eq_left hRow with ⟨most, hMost, hLeft⟩
  refine ⟨most, hMost, hLeft, c.withAmount row most.shortText, ?_, ?_⟩
  · rw [Composer.run_applyMost, hMost]
    rfl
  · exact holdsMost_withAmount hSound hRow hMost hLeft

/- Two rows that are paid alike, with ten coins to pay them from. -/
def ample : Composition :=
  after (Config.ofNetwork .mainnet)
    [.balance ⟨Amount.capped 1000000000, .zero⟩,
     .entry (.add specimen), .entry (.add specimen)]

private theorem reachable_ample :
    Reachable (Config.ofNetwork .mainnet) ample :=
  reachable_after _ _

private theorem mostFor_ample :
    ample.mostFor 0 = .ok (Amount.capped 849980000) := by
  decide +kernel

private theorem isValid_ample :
    ∀ r ∈ (ample.withAmount 0 (Amount.capped 849980000).shortText).rows,
      r.IsValid .mainnet := by
  decide +kernel

/- The first row is paid all that the second one leaves. -/
theorem applyMost_holdsMost_ample :
    0 < ample.rows.length ∧
      ∃ d request,
        (Composer.applyMost 0).run ample =
            .ok (Amount.capped 849980000) d ∧
          ample.HoldsMost (Config.ofNetwork .mainnet) d 0
            (Amount.capped 849980000) ∧
          d.validate = .ok request ∧
          request.totalOut = d.balance.spendable := by
  have hRow := Composer.lt_of_mostFor mostFor_ample
  rcases applyMost_holdsMost reachable_ample hRow with
    ⟨most, hMost, _, d, hRun, hHolds⟩
  cases mostFor_ample.symm.trans hMost
  have hValid : ∀ r ∈ d.rows, r.IsValid .mainnet := by
    rw [Composer.run_applyMost, mostFor_ample] at hRun
    cases hRun
    exact isValid_ample
  rcases hHolds.spends_all (by decide) hValid with
    ⟨request, hRequest, hAll⟩
  exact ⟨hRow, d, request, hRun, hHolds, hRequest, hAll⟩

end Composition

end Remit
