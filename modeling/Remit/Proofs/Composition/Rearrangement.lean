import Mathlib.Logic.Equiv.Basic
import Remit.Proofs.Composition.Determinacy
import Remit.Proofs.Composition.Validity

/-
  This file shows that the order of the rows of a composition
  does not matter for what is paid in all: the fee, the totals
  and the shortfall are the same, and so is whether it can be
  paid. What belongs to a row, its fault and its output, goes
  with the row.

  Key definitions include:
    * `IsArranged`
    * `Composition.IsRearranged`

  Key theorems include:
    * `exists_isArranged`
    * `Inputs.totals_of_perm`
    * `Inputs.shortfall?_of_perm`
    * `Composition.isRearranged_of_perm`
-/

namespace Remit

------------------------------------------------------------
-- Arrangements
------------------------------------------------------------

/-
  A list is arranged from another in some way: in each place it
  has the entry of the place that the way leads to.
-/
def IsArranged
    {α : Type}
    (way : Equiv.Perm Nat)
    (as bs : List α) : Prop :=
  ∀ k, bs[k]? = as[way k]?

section Arrangements

variable {α β : Type}
variable {way : Equiv.Perm Nat}
variable {as bs cs : List α}

/- What is made of each entry is arranged in the same way. -/
theorem IsArranged.map
    (h : IsArranged way as bs)
    (f : α → β) :
    IsArranged way (as.map f) (bs.map f) := by
  intro k
  rw [List.getElem?_map, List.getElem?_map, h k]

/- A way to arrange a list leaves an entry in front in its place. -/
def behindFirst (way : Equiv.Perm Nat) : Equiv.Perm Nat where
  toFun
  | 0 => 0
  | k + 1 => way k + 1
  invFun
  | 0 => 0
  | k + 1 => way.symm k + 1
  left_inv
  | 0 => rfl
  | k + 1 => congrArg (· + 1) (way.symm_apply_apply k)
  right_inv
  | 0 => rfl
  | k + 1 => congrArg (· + 1) (way.apply_symm_apply k)

/- Another entry in front of both lists is left in its place. -/
theorem IsArranged.cons
    (h : IsArranged way as bs)
    (a : α) :
    IsArranged (behindFirst way) (a :: as) (a :: bs)
| 0 => rfl
| k + 1 => h k

/- The first two entries change places. -/
theorem isArranged_swap
    (a b : α)
    (as : List α) :
    IsArranged (Equiv.swap 0 1) (b :: a :: as) (a :: b :: as)
| 0 => by rw [Equiv.swap_apply_left]; rfl
| 1 => by rw [Equiv.swap_apply_right]; rfl
| k + 2 => by
    rw [Equiv.swap_apply_of_ne_of_ne (by omega) (by omega)]
    rfl

/- What is arranged twice is arranged in some way. -/
theorem IsArranged.trans
    {further : Equiv.Perm Nat}
    (h : IsArranged way as bs)
    (hFurther : IsArranged further bs cs) :
    IsArranged (further.trans way) as cs :=
  fun k => (hFurther k).trans (h (further k))

/-
  Lists with the same entries are arranged from one another. The
  induction is on how one is permuted to the other.
-/
theorem exists_isArranged
    (h : as.Perm bs) :
    ∃ way, IsArranged way as bs := by
  induction h with
  | nil => exact ⟨Equiv.refl _, fun _ => rfl⟩
  | cons a _ ih =>
      rcases ih with ⟨way, hWay⟩
      exact ⟨behindFirst way, hWay.cons a⟩
  | swap a b as => exact ⟨Equiv.swap 0 1, isArranged_swap a b as⟩
  | trans _ _ ihFirst ihFurther =>
      rcases ihFirst with ⟨first, hFirst⟩
      rcases ihFurther with ⟨further, hFurther⟩
      exact ⟨further.trans first, hFirst.trans hFurther⟩

end Arrangements

------------------------------------------------------------
-- Inputs
------------------------------------------------------------

namespace Inputs

variable {i : Inputs}
variable {rows : List Recipient}

/- The inputs with other rows. -/
def withRows (i : Inputs) (rows : List Recipient) : Inputs :=
  { i with rows := rows }

/- The amounts that count are the same, in another order. -/
theorem validAmounts_of_perm
    (h : i.rows.Perm rows) :
    i.validAmounts.Perm (i.withRows rows).validAmounts :=
  (h.filter _).filterMap _

/- The fee depends on how many rows there are. -/
theorem fee_of_perm
    (h : i.rows.Perm rows) :
    (i.withRows rows).fee = i.fee :=
  congrArg (FeeSelection.ofPolicy _ _ _) h.length_eq.symm

/- The exact total is the same in any order. -/
theorem exactOut_of_perm
    (h : i.rows.Perm rows) :
    (i.withRows rows).exactOut = i.exactOut := by
  unfold exactOut
  rw [fee_of_perm h, Amount.total_perm (validAmounts_of_perm h)]

/-
  The totals are the same in any order, although the sum stops
  early at the supply: what they are is told by the exact total.
-/
theorem totals_of_perm
    (h : i.rows.Perm rows) :
    (i.withRows rows).totals = i.totals := by
  have hExact := exactOut_of_perm h
  have hAmount : (i.withRows rows).totals.amount = i.totals.amount := by
    apply Amount.ext
    rw [units_totals_amount, units_totals_amount,
      Amount.total_perm (validAmounts_of_perm h)]
  have hOut : (i.withRows rows).totals.out = i.totals.out := by
    apply Amount.ext
    rw [units_totals_out, units_totals_out, hExact]
  have hOverflow :
      (i.withRows rows).totals.overflow = i.totals.overflow := by
    rw [Bool.eq_iff_iff, totals_overflow_iff, totals_overflow_iff,
      hExact]
  cases hBefore : i.totals
  cases hAfter : (i.withRows rows).totals
  rw [hBefore, hAfter] at hAmount hOut hOverflow
  cases hAmount
  cases hOut
  cases hOverflow
  rfl

/- The shortfall is the same in any order. -/
theorem shortfall?_of_perm
    (h : i.rows.Perm rows) :
    (i.withRows rows).shortfall? = i.shortfall? := by
  have hSome :
      (i.withRows rows).validAmounts ≠ [] ↔ i.validAmounts ≠ [] := by
    rw [← List.length_pos_iff, ← List.length_pos_iff,
      (validAmounts_of_perm h).length_eq]
  unfold shortfall?
  rw [totals_of_perm h]
  simp only [hSome]
  rfl

end Inputs

------------------------------------------------------------
-- Compositions
------------------------------------------------------------

namespace Composition

variable {config : Config} {c d : Composition}

/-
  A composition is a rearranged one: in all the same is paid for
  the same fee, and it can be paid if the other can. The rows
  are arranged in some way, and whatever way that is, the faults
  of the rows and the outputs of a request are arranged in it.
-/
structure IsRearranged (c d : Composition) : Prop where
  fee_eq : d.outcome.fee = c.outcome.fee
  totals_eq : d.outcome.totals = c.outcome.totals
  shortfall_eq : d.outcome.shortfall = c.outcome.shortfall
  validate_iff :
    (∃ r, c.validate = .ok r) ↔ ∃ s, d.validate = .ok s
  rows : ∃ way, IsArranged way c.rows d.rows
  faults :
    ∀ way,
      IsArranged way c.rows d.rows →
        IsArranged way c.outcome.faults d.outcome.faults
  outputs :
    ∀ way r s,
      IsArranged way c.rows d.rows →
        c.validate = .ok r →
          d.validate = .ok s →
            IsArranged way r.payment.outputs s.payment.outputs

/- In another order there are problems exactly if there were some. -/
theorem isEmpty_problems_of_perm
    (hc : Sound config c)
    (hd : Sound config d)
    (hRows : c.rows.Perm d.rows)
    (hFee : d.fee = c.fee)
    (hBalance : d.balance = c.balance) :
    c.problems.IsEmpty ↔ d.problems.IsEmpty := by
  have hOut : d.exactOut = c.exactOut := by
    unfold exactOut
    rw [hFee, Amount.total_perm (hRows.map paid)]
  have hSome : d.rows ≠ [] ↔ c.rows ≠ [] := by
    rw [← List.length_pos_iff, ← List.length_pos_iff,
      hRows.length_eq]
  rw [isEmpty_problems_iff hc, isEmpty_problems_iff hd, hOut, hSome,
    hBalance]
  simp only [hRows.mem_iff]

/-
  Compositions with the same rows in any order, and otherwise
  inputs that are alike, are rearranged.
-/
theorem isRearranged_of_perm
    (hc : Reachable config c)
    (hd : Reachable config d)
    (hAlike : (c.inputs.withRows d.rows).Alike d.inputs)
    (hRows : c.rows.Perm d.rows) :
    c.IsRearranged d := by
  have hcSound := sound_of_reachable hc
  have hdSound := sound_of_reachable hd
  have hOutcome :
      d.outcome = (c.inputs.withRows d.rows).outcome :=
    hdSound.outcome_eq.trans hAlike.outcome_eq
  have hFee : d.outcome.fee = c.outcome.fee := by
    rw [hOutcome, hcSound.outcome_eq]
    exact Inputs.fee_of_perm hRows
  have hBalance : d.balance = c.balance :=
    (congrArg Inputs.balance hAlike.eq_bounds).symm
  have hEmpty :=
    isEmpty_problems_of_perm hcSound hdSound hRows
      (congrArg FeeSelection.selected hFee) hBalance
  refine ⟨hFee, ?_, ?_, ?_, exists_isArranged hRows, ?_, ?_⟩
  · rw [hOutcome, hcSound.outcome_eq]
    exact Inputs.totals_of_perm hRows
  · rw [hOutcome, hcSound.outcome_eq]
    exact Inputs.shortfall?_of_perm hRows
  · rw [exists_validate_iff, exists_validate_iff]
    exact hEmpty
  · intro way hWay
    rw [hOutcome, hcSound.outcome_eq]
    exact hWay.map _
  · intro way r s hWay hr hs
    rcases validate_eq_ok_iff.mp hr with ⟨_, rfl⟩
    rcases validate_eq_ok_iff.mp hs with ⟨_, rfl⟩
    exact hWay.map _

/- A row that is paid the whole supply. -/
def vast : Recipient :=
  { specimen with amountText := "200000000" }

/- That row, another one that can be paid, and one that cannot. -/
def vastFirst : Composition :=
  after (Config.ofNetwork .mainnet)
    [.entry (.add vast), .entry (.add specimen),
     .entry (.add Recipient.blank)]

/- The same rows, with that row after the others. -/
def vastLast : Composition :=
  after (Config.ofNetwork .mainnet)
    [.entry (.add specimen), .entry (.add Recipient.blank),
     .entry (.add vast)]

/- A row that is paid two coins. -/
def another : Recipient :=
  { specimen with amountText := "2" }

/- Rows, and the whole supply to pay them from. -/
def supplied (rows : List Recipient) : Composition :=
  after (Config.ofNetwork .mainnet)
    (.balance ⟨.supply, .zero⟩ ::
      rows.map (fun row => .entry (.add row)))

/-
  The rows of the former two exceed the supply alike, with the
  fault in another place. Two rows that can be paid are paid in
  both orders, and then the outputs change places with them.
-/
theorem isRearranged_of_perm_specimen :
    ((vastFirst.inputs.withRows vastLast.rows).Alike vastLast.inputs ∧
      vastFirst.rows.Perm vastLast.rows ∧
      vastFirst.IsRearranged vastLast ∧
      vastFirst.outcome.totals.overflow = true ∧
      vastFirst.outcome.faults ≠ vastLast.outcome.faults) ∧
    (supplied [specimen, another]).IsRearranged
        (supplied [another, specimen]) ∧
      ∃ r s,
        (supplied [specimen, another]).validate = .ok r ∧
          (supplied [another, specimen]).validate = .ok s ∧
          r.payment.outputs ≠ s.payment.outputs ∧
          IsArranged (Equiv.swap 0 1) r.payment.outputs
            s.payment.outputs := by
  have hAlike :
      (vastFirst.inputs.withRows vastLast.rows).Alike
        vastLast.inputs :=
    ⟨rfl, rfl⟩
  have hRows : vastFirst.rows.Perm vastLast.rows := by
    decide +kernel
  have hVast :=
    isRearranged_of_perm (reachable_after _ _) (reachable_after _ _)
      hAlike hRows
  have hPaid :
      (supplied [specimen, another]).IsRearranged
        (supplied [another, specimen]) :=
    isRearranged_of_perm (reachable_after _ _) (reachable_after _ _)
      ⟨rfl, rfl⟩ (List.Perm.swap another specimen [])
  have hEmpty :
      (supplied [specimen, another]).problems.IsEmpty := by
    decide +kernel
  rcases exists_validate_iff.mpr hEmpty with ⟨r, hr⟩
  rcases hPaid.validate_iff.mp ⟨r, hr⟩ with ⟨s, hs⟩
  have hOutputs :=
    hPaid.outputs _ r s (isArranged_swap another specimen []) hr hs
  refine
    ⟨⟨hAlike, hRows, hVast, by decide +kernel, by decide +kernel⟩,
      hPaid, r, s, hr, hs, ?_, hOutputs⟩
  rcases validate_eq_ok_iff.mp hr with ⟨_, rfl⟩
  rcases validate_eq_ok_iff.mp hs with ⟨_, rfl⟩
  change
    (supplied [specimen, another]).outputs ≠
      (supplied [another, specimen]).outputs
  decide +kernel

end Composition

end Remit
