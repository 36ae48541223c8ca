import Remit.Proofs.Except
import Remit.Proofs.Scope.Resolution
import Remit.Wallet.Offline

/-
  This file proves that the engine of a wallet file finds funds
  exactly when the balance of the scope tells so. The engine
  takes the largest sources first and adds them up only as far
  as needed; the balance adds up all of them in the order of the
  file. Both stop at the supply.

  Key definitions include:
    * `Scope.funds`
    * `Draft.IsBuiltFor`

  Key theorems include:
    * `Wallet.le_choose_iff`
    * `Wallet.selectInputs_iff`
    * `Wallet.exists_build_iff`
-/

namespace Remit

------------------------------------------------------------
-- Balances
------------------------------------------------------------

namespace Scope

/- The exact sum of what the sources in a scope hold. -/
def funds (s : Scope) (sources : List Source) : Nat :=
  Amount.total
    ((sources.filter (fun source => s.Includes source)).map
      Source.spendable)

end Scope

namespace Wallet

------------------------------------------------------------
-- Choosing Inputs
------------------------------------------------------------

/-
  Choosing covers what is required exactly when all sources
  together do. What is required is an amount, so that stopping
  at the supply does no harm.
-/
theorem le_choose_iff
    (required : Amount)
    (chosen : Chosen)
    (sources : List Source) :
    required ≤ (choose required chosen sources).total ↔
      required.units ≤
        chosen.total.units +
          Amount.total (sources.map Source.spendable) := by
  -- The induction is on the sources, for whatever was chosen.
  induction sources generalizing chosen with
  | nil => exact Iff.rfl
  | cons source sources ih =>
      have hCap := required.units_le
      rw [List.map_cons, Amount.total_cons]
      unfold choose
      split
      · rename_i hEnough
        have hUnits := Amount.le_iff.mp hEnough
        exact iff_of_true hEnough (by omega)
      · rw [ih, Amount.units_addCapped]
        omega

/- Sources without funds add nothing to the funds of a scope. -/
theorem total_filter
    (s : Scope)
    (sources : List Source) :
    Amount.total
        ((sources.filter
          (fun source =>
            s.Includes source ∧ ¬ source.spendable.IsZero)).map
              Source.spendable) =
      s.funds sources := by
  unfold Scope.funds
  induction sources with
  | nil => rfl
  | cons source sources ih =>
      by_cases hIncluded : s.Includes source
      · by_cases hZero : source.spendable.IsZero
        · have hNone : source.spendable.units = 0 := hZero
          rw [List.filter_cons_of_neg (by simp [hZero]),
            List.filter_cons_of_pos (by simp [hIncluded]),
            List.map_cons, Amount.total_cons, hNone, Nat.zero_add, ih]
        · rw [List.filter_cons_of_pos (by simp [hIncluded, hZero]),
            List.filter_cons_of_pos (by simp [hIncluded]),
            List.map_cons, List.map_cons, Amount.total_cons,
            Amount.total_cons, ih]
      · rw [List.filter_cons_of_neg (by simp [hIncluded]),
          List.filter_cons_of_neg (by simp [hIncluded]), ih]

/- The candidates hold all the funds of a scope. -/
theorem total_candidates
    (w : Wallet)
    (s : Scope) :
    Amount.total ((w.candidates s).map Source.spendable) =
      s.funds w.sources := by
  rw [← total_filter]
  exact
    Amount.total_perm ((List.mergeSort_perm _ precedes).map _)

/- Sources are found exactly when the balance suffices. -/
theorem le_choose_candidates_iff
    (w : Wallet)
    (s : Scope)
    (required : Amount) :
    required ≤
        (choose required ⟨.zero, 0⟩ (w.candidates s)).total ↔
      required ≤ (s.balance w.sources).spendable := by
  have hCap := required.units_le
  rw [le_choose_iff, total_candidates, Amount.le_iff,
    Scope.units_spendable]
  change
    required.units ≤ 0 + s.funds w.sources ↔
      required.units ≤ min (s.funds w.sources) Amount.cap
  omega

/-
  The engine selects inputs exactly when the balance of the
  scope suffices, and what it selects covers what is required.
-/
theorem selectInputs_iff
    (w : Wallet)
    (s : Scope)
    (required : Amount) :
    ((∃ chosen, w.selectInputs s required = .ok chosen) ↔
        required ≤ (s.balance w.sources).spendable) ∧
      ∀ chosen, w.selectInputs s required = .ok chosen →
        required ≤ chosen.total := by
  rw [← le_choose_candidates_iff]
  unfold selectInputs
  by_cases hEnough :
      required ≤ (choose required ⟨.zero, 0⟩ (w.candidates s)).total
  · rw [if_pos hEnough]
    refine ⟨iff_of_true ⟨_, rfl⟩ hEnough, ?_⟩
    intro chosen hChosen
    cases hChosen
    exact hEnough
  · rw [if_neg hEnough]
    refine ⟨iff_of_false ?_ hEnough, ?_⟩
    · rintro ⟨chosen, hChosen⟩
      cases hChosen
    · intro chosen hChosen
      cases hChosen

end Wallet

------------------------------------------------------------
-- Building Drafts
------------------------------------------------------------

/-
  A draft pays these outputs and this fee: its totals are exact,
  and the inputs are worth what leaves the wallet and the change
  together.
-/
structure Draft.IsBuiltFor
    (d : Draft)
    (outputs : List Output)
    (fee : Amount) : Prop where
  outputs_eq : d.outputs = outputs
  fee_eq : d.fee = fee
  total : d.totalAmount.units = Amount.total (outputs.map Output.amount)
  inputs :
    d.inputTotal.units =
      d.totalAmount.units + d.fee.units + d.change.units

namespace Wallet

section Built

variable
  {w : Wallet} {now : Time} {outputs : List Output} {scope : Scope}
  {fee : Amount}

/- A draft is built once the sums are amounts and inputs are found. -/
theorem build_eq_ok_iff
    {d : Draft} :
    w.build now outputs scope fee = .ok d ↔
      ∃ totalAmount required chosen,
        Amount.sum (outputs.map Output.amount) = .ok totalAmount ∧
          totalAmount.add fee = .ok required ∧
          w.selectInputs scope required = .ok chosen ∧
          { id := draftId outputs scope fee
            outputs := outputs
            fee := fee
            totalAmount := totalAmount
            change := chosen.total.subFloored required
            inputTotal := chosen.total
            numInputs := chosen.count
            expiryHeight := w.expiryHeight
            createdAt := w.asOf.getD now
            fingerprint := none } = d := by
  unfold build summed
  simp only [bind_eq_ok_iff, mapError_eq_ok_iff, pure, Except.pure,
    Except.ok.injEq, exists_and_left]

/- A draft is built for what is asked of the engine. -/
theorem isBuiltFor_of_build
    {d : Draft}
    (h : w.build now outputs scope fee = .ok d) :
    d.IsBuiltFor outputs fee := by
  rcases build_eq_ok_iff.mp h with
    ⟨totalAmount, required, chosen, hSum, hAdd, hSelect, rfl⟩
  have hTotal := Amount.sum_eq_ok_iff.mp hSum
  have hRequired := Amount.add_eq_ok_iff.mp hAdd
  have hCovered : required.units ≤ chosen.total.units :=
    (selectInputs_iff w scope required).2 chosen hSelect
  refine ⟨rfl, rfl, hTotal.symm, ?_⟩
  change
    chosen.total.units =
      totalAmount.units + fee.units +
        (chosen.total.units - required.units)
  omega

/-
  A draft is built exactly when the balance of the scope covers
  the outputs and the fee.
-/
theorem exists_build_iff :
    (∃ d, w.build now outputs scope fee = .ok d) ↔
      Amount.total (outputs.map Output.amount) + fee.units ≤
        (scope.balance w.sources).spendable.units := by
  constructor
  · rintro ⟨d, h⟩
    rcases build_eq_ok_iff.mp h with
      ⟨totalAmount, required, chosen, hSum, hAdd, hSelect, _⟩
    rw [Amount.sum_eq_ok_iff.mp hSum, Amount.add_eq_ok_iff.mp hAdd]
    exact (selectInputs_iff w scope required).1.mp ⟨chosen, hSelect⟩
  · intro h
    have hCap := (scope.balance w.sources).spendable.units_le
    have hTotal :
        Amount.total (outputs.map Output.amount) ≤ Amount.cap := by
      omega
    have hSum :
        Amount.sum (outputs.map Output.amount) = .ok ⟨_, hTotal⟩ :=
      Amount.sum_eq_ok_iff.mpr rfl
    have hAdd :
        Amount.add ⟨_, hTotal⟩ fee = .ok ⟨_, Nat.le_trans h hCap⟩ :=
      Amount.add_eq_ok_iff.mpr rfl
    rcases (selectInputs_iff w scope ⟨_, Nat.le_trans h hCap⟩).1.mpr h
      with ⟨chosen, hSelect⟩
    exact ⟨_, build_eq_ok_iff.mpr ⟨_, _, chosen, hSum, hAdd, hSelect, rfl⟩⟩

end Built

end Wallet

end Remit
