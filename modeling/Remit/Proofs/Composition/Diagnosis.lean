import Remit.Proofs.Composition.Validity
import Remit.Proofs.Recipient.Faults

/-
  This file shows that a composition that cannot be paid is told
  exactly what keeps it from being paid: whether it has rows,
  what each row is at fault for, whether the total exceeds the
  supply, and what it lacks to be paid. Rows that cannot be paid
  do not count in the total.

  Key definitions include:
    * `Composition.payableOut`
    * `Composition.TellsFaults`
    * `Composition.IsDiagnosis`

  Key theorems include:
    * `Composition.shortfall_eq_some_iff`
    * `Composition.isDiagnosis_problems`
    * `Composition.IsDiagnosis.unique`
    * `Composition.validate_eq_error_iff`
-/

namespace Remit

namespace Composition

------------------------------------------------------------
-- Rows That Can Be Paid
------------------------------------------------------------

/-
  The exact sum of what the rows that can be paid are paid, and
  of the fee.
-/
def payableOut (n : Network) (c : Composition) : Nat :=
  Amount.total ((c.payableRows n).map paid) + c.fee.units

/- There is a row that can be paid. -/
theorem payableRows_ne_nil_iff
    {n : Network}
    {c : Composition} :
    c.payableRows n ≠ [] ↔ ∃ r ∈ c.rows, r.IsPayable n := by
  simp [payableRows, List.filter_eq_nil_iff]

/- The inputs come to the exact total of the payable rows. -/
theorem inputs_exactOut_eq
    {config : Config}
    {c : Composition}
    (hc : Sound config c) :
    c.inputs.exactOut = c.payableOut config.network := by
  unfold Inputs.exactOut payableOut fee
  rw [validAmounts_eq hc, hc.outcome_eq]
  rfl

------------------------------------------------------------
-- Shortfalls
------------------------------------------------------------

/-
  A shortfall is reported exactly if some row can be paid and
  the total, stopped at the supply, is more than can be spent;
  and it has these figures.
-/
theorem shortfall_eq_some_iff
    {config : Config}
    {c : Composition}
    (hc : Sound config c)
    (s : Shortfall) :
    c.outcome.shortfall = some s ↔
      (∃ r ∈ c.rows, r.IsPayable config.network) ∧
        c.balance.spendable.units <
          min (c.payableOut config.network) Amount.cap ∧
        s.required.units =
          min (c.payableOut config.network) Amount.cap ∧
        s.spendable = c.balance.spendable ∧
        s.pending = c.balance.pending := by
  have hSome :
      c.inputs.validAmounts ≠ [] ↔
        ∃ r ∈ c.rows, r.IsPayable config.network := by
    rw [← payableRows_ne_nil_iff, validAmounts_eq hc]
    simp
  have hUnits :
      c.inputs.totals.out.units =
        min (c.payableOut config.network) Amount.cap := by
    rw [Inputs.units_totals_out, inputs_exactOut_eq hc]
  rw [hc.outcome_eq, ← hSome, ← hUnits]
  change c.inputs.shortfall? = some s ↔ _
  unfold Inputs.shortfall?
  split
  · rename_i h
    constructor
    · intro hEq
      cases hEq
      exact ⟨h.1, h.2, rfl, rfl, rfl⟩
    · rintro ⟨_, _, hRequired, hSpendable, hPending⟩
      rcases s with ⟨required, spendable, pending⟩
      cases Amount.ext hRequired
      cases hSpendable
      cases hPending
      rfl
  · rename_i h
    constructor
    · intro hEq
      cases hEq
    · rintro ⟨hAmounts, hLess, _⟩
      exact absurd ⟨hAmounts, hLess⟩ h

------------------------------------------------------------
-- Faults of Rows
------------------------------------------------------------

/-
  From one row on, the issues tell of each row in order that
  cannot be paid what it is at fault for, and nothing of the
  rows that can be paid.
-/
inductive TellsFaults (n : Network) :
    Nat → List Recipient → List Issue → Prop where
| none (row : Nat) : TellsFaults n row [] []
| payable
    {row : Nat}
    {r : Recipient}
    {rows : List Recipient}
    {issues : List Issue}
    (hPayable : r.IsPayable n)
    (hRest : TellsFaults n (row + 1) rows issues) :
    TellsFaults n row (r :: rows) issues
| faulty
    {row : Nat}
    {r : Recipient}
    {rows : List Recipient}
    {issues : List Issue}
    {fault : Fault}
    (hFault : r.IsAtFault n fault)
    (hRest : TellsFaults n (row + 1) rows issues) :
    TellsFaults n row (r :: rows) (⟨some row, fault⟩ :: issues)

/- Rows are told of in one way only. -/
theorem TellsFaults.unique
    {n : Network}
    {row : Nat}
    {rows : List Recipient}
    {issues others : List Issue}
    (h : TellsFaults n row rows issues)
    (hOther : TellsFaults n row rows others) :
    issues = others := by
  induction h generalizing others with
  | none =>
      cases hOther
      rfl
  | payable hPayable hRest ih =>
      cases hOther with
      | payable _ hRest' => exact ih hRest'
      | faulty hFault _ => exact absurd hPayable hFault.not_isPayable
  | faulty hFault hRest ih =>
      cases hOther with
      | payable hPayable _ => exact absurd hPayable hFault.not_isPayable
      | faulty hFault' hRest' =>
          rw [hFault.unique hFault', ih hRest']

/- The faults of rows, numbered from one row on, tell of them. -/
private theorem tellsFaults_filterMap
    (n : Network)
    (rows : List Recipient)
    (row : Nat) :
    TellsFaults n row rows
      (((rows.map (fun r => r.fault? n)).zipIdx row).filterMap
        (fun entry =>
          entry.1.map (fun fault => ⟨some entry.2, fault⟩))) := by
  induction rows generalizing row with
  | nil => exact .none row
  | cons r rows ih =>
      rw [List.map_cons, List.zipIdx_cons]
      cases hFault : r.fault? n with
      | none =>
          have hPayable := Recipient.isValid_iff_isPayable.mp hFault
          simp only [List.filterMap_cons, Option.map_none]
          exact .payable hPayable (ih (row + 1))
      | some fault =>
          simp only [List.filterMap_cons, Option.map_some]
          exact
            .faulty (Recipient.fault?_eq_some_iff.mp hFault)
              (ih (row + 1))

/- The issues of the rows tell of all of them. -/
theorem tellsFaults_rowIssues
    {config : Config}
    {c : Composition}
    (hc : Sound config c) :
    TellsFaults config.network 0 c.rows c.rowIssues := by
  unfold rowIssues
  rw [hc.outcome_eq]
  change
    TellsFaults config.network 0 c.rows
      (c.inputs.faults.zipIdx.filterMap _)
  unfold Inputs.faults
  rw [hc.config_eq]
  exact tellsFaults_filterMap config.network c.rows 0

------------------------------------------------------------
-- Diagnoses
------------------------------------------------------------

/-
  What is told of a composition is a diagnosis: that there are
  no rows, if so; then what the rows are at fault for; then that
  the total of the payable rows exceeds the supply, if it does.
  Besides, there is a shortfall exactly if some row can be paid
  and this total, stopped at the supply, cannot be spent.
-/
structure IsDiagnosis
    (config : Config)
    (c : Composition)
    (ps : Problems) : Prop where
  issues :
    ∃ rowIssues,
      TellsFaults config.network 0 c.rows rowIssues ∧
        ps.issues =
          (if c.rows = [] then [⟨none, .noRecipients⟩] else [])
            ++ rowIssues
            ++ (if Amount.cap < c.payableOut config.network then
                  [⟨none, .totalTooLarge⟩]
                else
                  [])
  shortfall :
    ∀ s,
      ps.shortfall = some s ↔
        (∃ r ∈ c.rows, r.IsPayable config.network) ∧
          c.balance.spendable.units <
            min (c.payableOut config.network) Amount.cap ∧
          s.required.units =
            min (c.payableOut config.network) Amount.cap ∧
          s.spendable = c.balance.spendable ∧
          s.pending = c.balance.pending

/- The problems of a composition are a diagnosis. -/
theorem isDiagnosis_problems
    {config : Config}
    {c : Composition}
    (hc : Sound config c) :
    c.IsDiagnosis config c.problems where
  issues := by
    have hOverflow :
        c.outcome.totals.overflow = true ↔
          Amount.cap < c.payableOut config.network := by
      rw [hc.outcome_eq, ← inputs_exactOut_eq hc]
      exact Inputs.totals_overflow_iff c.inputs
    refine ⟨c.rowIssues, tellsFaults_rowIssues hc, ?_⟩
    simp only [problems, hOverflow]
  shortfall := shortfall_eq_some_iff hc

/- There is one diagnosis only. -/
theorem IsDiagnosis.unique
    {config : Config}
    {c : Composition}
    {ps qs : Problems}
    (hp : c.IsDiagnosis config ps)
    (hq : c.IsDiagnosis config qs) :
    ps = qs := by
  rcases hp.issues with ⟨pIssues, hpTells, hpEq⟩
  rcases hq.issues with ⟨qIssues, hqTells, hqEq⟩
  have hIssues : ps.issues = qs.issues := by
    rw [hpEq, hqEq, hpTells.unique hqTells]
  have hShortfall : ps.shortfall = qs.shortfall := by
    apply Option.ext
    intro s
    exact (hp.shortfall s).trans (hq.shortfall s).symm
  cases ps
  cases qs
  cases hIssues
  cases hShortfall
  rfl

/- A composition is refused for its problems, if it has any. -/
theorem validate_eq_error_problems_iff
    {c : Composition}
    {ps : Problems} :
    c.validate = .error ps ↔ ps = c.problems ∧ ¬ ps.IsEmpty := by
  unfold validate
  split
  · rename_i hEmpty
    simp only [reduceCtorEq, false_iff, not_and, not_not]
    rintro rfl
    exact hEmpty
  · rename_i hSome
    constructor
    · intro h
      cases h
      exact ⟨rfl, hSome⟩
    · rintro ⟨rfl, _⟩
      rfl

/-
  After any edits, taken or refused, a composition is refused
  for exactly its diagnosis, unless that is empty.
-/
theorem validate_eq_error_iff
    (config : Config)
    (edits : List Edit)
    (ps : Problems) :
    (after config edits).validate = .error ps ↔
      (after config edits).IsDiagnosis config ps ∧
        ¬ ps.IsEmpty := by
  have hSound := sound_of_reachable (reachable_after config edits)
  have hProblems := isDiagnosis_problems hSound
  rw [validate_eq_error_problems_iff]
  constructor
  · rintro ⟨rfl, hSome⟩
    exact ⟨hProblems, hSome⟩
  · rintro ⟨hDiagnosis, hSome⟩
    exact ⟨hDiagnosis.unique hProblems, hSome⟩

/- Two rows that come to more than the supply, and one at fault. -/
example :
    (after (Config.ofNetwork .mainnet)
      [.entry (.add { specimen with amountText := "200000000" }),
       .entry (.add Recipient.blank),
       .entry
        (.add { specimen with amountText := "200000000" })]).problems =
      ⟨[⟨some 1, .addressRequired⟩, ⟨none, .totalTooLarge⟩],
        some ⟨.supply, .zero, .zero⟩⟩ := by
  decide +kernel

end Composition

end Remit
