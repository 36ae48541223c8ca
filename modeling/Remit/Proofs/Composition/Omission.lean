import Mathlib.Data.List.InsertIdx
import Remit.Proofs.Composition.Most
import Remit.Proofs.Composition.Removal

/-
  This file shows that a payment stays payable without any one
  of its rows, as long as another is left: the others are paid
  as before, for a fee that is no greater and a total that is
  smaller.

  Key definitions include:
    * `Composition.without`
    * `Composition.Omits`

  Key theorems include:
    * `Composition.exactOut_without_lt`
    * `Composition.isEmpty_problems_without`
    * `Composition.validate_remove_omits`
-/

namespace Remit

namespace Composition

variable {config : Config} {c : Composition} {row : Nat}

/- The composition without a row. -/
def without (c : Composition) (row : Nat) : Composition :=
  c.setRows (c.rows.eraseIdx row)

/- A row that is removed is left out. -/
theorem enter_remove_eq_without
    (hRow : row < c.rows.length) :
    c.enter (.remove row) = .ok (c.without row) :=
  enter_remove_eq_ok hRow

/- The outputs without a row are those of the other rows. -/
theorem outputs_without
    (c : Composition)
    (row : Nat) :
    (c.without row).outputs = c.outputs.eraseIdx row :=
  (List.eraseIdx_map _ _ _).symm

/- The fee without a row is no greater. -/
theorem fee_without_le
    (hc : Sound config c)
    (row : Nat) :
    (c.without row).fee ≤ c.fee :=
  fee_setRows_le hc (List.length_eraseIdx_le c.rows row)

/- A row that can be paid is paid more than nothing. -/
theorem paid_pos
    {n : Network}
    {r : Recipient}
    (h : r.IsPayable n) :
    0 < (paid r).units := by
  rcases h.amount with ⟨a, hText, hPos⟩
  rw [paid_of_ofText hText]
  exact hPos

/- Without a row that can be paid there is less to pay. -/
theorem exactOut_without_lt
    (hc : Sound config c)
    (hPayable : ∀ r ∈ c.rows, r.IsPayable config.network)
    (hRow : row < c.rows.length) :
    (c.without row).exactOut < c.exactOut := by
  have hFee := Amount.le_iff.mp (fee_without_le hc row)
  have hOthers :
      Amount.total ((c.without row).rows.map paid) = c.others row :=
    (total_amounts (c.rows.eraseIdx row)).symm
  have hTotal := total_paid (List.getElem?_eq_getElem hRow)
  have hPaid := paid_pos (hPayable _ (List.getElem_mem hRow))
  unfold exactOut
  omega

/- Nothing keeps the other rows from being paid, if there are any. -/
theorem isEmpty_problems_without
    (hc : Sound config c)
    (hEmpty : c.problems.IsEmpty)
    (hRow : row < c.rows.length)
    (hOthers : 2 ≤ c.rows.length) :
    (c.without row).problems.IsEmpty := by
  rcases (isEmpty_problems_iff hc).mp hEmpty with
    ⟨_, hPayable, hAffordable⟩
  have hLength := List.length_eraseIdx_of_lt hRow
  have hLess := exactOut_without_lt hc hPayable hRow
  apply (isEmpty_problems_iff
    (hc.enter (enter_remove_eq_without hRow))).mpr
  refine ⟨?_, ?_, ?_⟩
  · apply List.ne_nil_of_length_pos
    change 0 < (c.rows.eraseIdx row).length
    omega
  · intro r hr
    exact hPayable r (List.mem_of_mem_eraseIdx hr)
  · exact Nat.le_trans (Nat.le_of_lt hLess) hAffordable

/-
  A request omits one row of another: it has the other outputs,
  in the same order, costs less in all, and its fee is no
  greater.
-/
structure Omits (row : Nat) (r s : Request) : Prop where
  outputs_eq : s.payment.outputs = r.payment.outputs.eraseIdx row
  totalOut_lt : s.totalOut < r.totalOut
  fee_le : s.payment.fee ≤ r.payment.fee

/-
  Any row of a composition that can be paid can be removed if
  there is another, and there is a request then that omits it.
-/
theorem validate_remove_omits
    {r : Request}
    (hc : Reachable config c)
    (hOthers : 2 ≤ c.rows.length)
    (hr : c.validate = .ok r)
    (hRow : row < c.rows.length) :
    ∃ d s,
      c.enter (.remove row) = .ok d ∧
        d.validate = .ok s ∧ Omits row r s := by
  have hSound := sound_of_reachable hc
  have hRemove := enter_remove_eq_without hRow
  have hLeftSound := hSound.enter hRemove
  rcases validate_eq_ok_iff.mp hr with ⟨hEmpty, rfl⟩
  have hLeft := isEmpty_problems_without hSound hEmpty hRow hOthers
  have hPayable := ((isEmpty_problems_iff hSound).mp hEmpty).2.1
  have hTotal :
      (c.without row).outcome.totals.out < c.outcome.totals.out := by
    rw [Amount.lt_iff, units_out hSound hEmpty,
      units_out hLeftSound hLeft]
    exact exactOut_without_lt hSound hPayable hRow
  exact
    ⟨_, _, hRemove, validate_eq_ok_iff.mpr ⟨hLeft, rfl⟩,
      outputs_without c row, hTotal, fee_without_le hSound row⟩

/-
  Two rows for the low preset, paid from the coins that they
  come to.
-/
def exacting : Composition :=
  after (Config.ofNetwork .mainnet)
    [.entry (.preset .low), .entry (.add specimen),
     .entry (.add nearlyAll),
     .balance ⟨Amount.capped 250010000, .zero⟩]

/- The second row is paid alone, for half the fee. -/
theorem validate_remove_omits_exacting :
    ∃ r d s,
      2 ≤ exacting.rows.length ∧
        exacting.validate = .ok r ∧
        0 < exacting.rows.length ∧
        exacting.enter (.remove 0) = .ok d ∧
        d.validate = .ok s ∧ Omits 0 r s := by
  have hEmpty : exacting.problems.IsEmpty := by decide +kernel
  have hValid := validate_eq_ok_iff.mpr ⟨hEmpty, rfl⟩
  have hOthers : 2 ≤ exacting.rows.length := by decide +kernel
  have hRow : 0 < exacting.rows.length := by decide +kernel
  rcases validate_remove_omits (reachable_after _ _) hOthers hValid
      hRow with
    ⟨d, s, hRemove, hLeft, hOmits⟩
  exact ⟨_, d, s, hOthers, hValid, hRow, hRemove, hLeft, hOmits⟩

end Composition

end Remit
