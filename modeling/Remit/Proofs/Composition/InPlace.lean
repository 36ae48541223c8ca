import Remit.Composition.InPlace
import Remit.Proofs.Composition.History
import Remit.Proofs.Recipient.Validity

/-
  This file proves that editing in place comes to the same as
  working the outcome out from the inputs alone. Whatever was
  written before, a composition that is reworked has the outcome
  of its inputs; an editor either does what the entry does to
  the composition, or fails and has written nothing.

  Key definitions include:
    * `Composer.result`

  Key theorems include:
    * `Composition.rework_eq`
    * `Composer.run_addRow`
    * `Composer.run_removeRow`
    * `Composer.run_applyMost`
    * `Composer.run_enter`
-/

namespace Remit

namespace Composition

------------------------------------------------------------
-- Working Out in Place
------------------------------------------------------------

variable {c : Composition}

/- A row without a fault has an address. -/
theorem trim_ne_of_isValid
    {n : Network}
    {r : Recipient}
    (h : r.IsValid n) :
    Text.trim r.address ≠ "" := by
  intro hEmpty
  have hNone : Text.trimList r.address.toList = [] := by
    have hList := congrArg String.toList hEmpty
    unfold Text.trim at hList
    simpa using hList
  have hFault : r.addressFault? n = some .addressRequired := by
    unfold Recipient.addressFault? Address.check Address.checkList
    rw [hNone, if_pos rfl]
  unfold Recipient.IsValid Recipient.fault? at h
  rw [hFault] at h
  cases h

/- No mark stands for no fault. -/
theorem isNone_fault?
    (n : Network)
    (r : Recipient) :
    (r.fault? n).isNone = decide (r.IsValid n) := by
  rw [Bool.eq_iff_iff, Option.isNone_iff_eq_none, decide_eq_true_iff]
  rfl

section Marked

variable (hMarked : c.outcome.faults = c.inputs.faults)

include hMarked

/- Rows that were marked stand beside what is wrong with them. -/
theorem markedRows_eq :
    c.markedRows =
      c.rows.map (fun r => (r, r.fault? c.network)) := by
  unfold markedRows
  rw [hMarked]
  exact List.map_prod_left_eq_zip.symm

/- The amounts without a mark are those of the valid rows. -/
theorem soundAmounts_eq :
    c.soundAmounts = c.inputs.validAmounts := by
  unfold soundAmounts Inputs.validAmounts
  rw [markedRows_eq hMarked, List.filter_map, List.filterMap_map]
  refine congrArg (List.filterMap Recipient.amount?) ?_
  exact List.filter_congr (fun r _ => isNone_fault? c.network r)

/- The addresses without a mark are those of the valid rows. -/
theorem soundAddresses_eq :
    c.soundAddresses = c.inputs.validAddresses := by
  unfold soundAddresses Inputs.validAddresses
  rw [markedRows_eq hMarked, List.zipIdx_map, List.filter_map,
    List.map_map]
  refine congrArg (List.map _) ?_
  refine List.filter_congr (fun entry _ => ?_)
  change
    decide
        (Text.trim entry.1.address ≠ "" ∧
          (entry.1.fault? c.network).isNone) =
      decide (entry.1.IsValid c.network)
  rw [isNone_fault?]
  by_cases hValid : entry.1.IsValid c.network
  · simp [hValid, trim_ne_of_isValid hValid]
  · simp [hValid]

variable (hFee : c.outcome.fee = c.inputs.fee)

include hFee

/- With marks and fee up to date the exact totals are right. -/
theorem checkedTotals_eq :
    c.checkedTotals = c.inputs.exactTotals := by
  unfold checkedTotals Inputs.exactTotals fee
  rw [soundAmounts_eq hMarked, hFee]

/- With marks and fee up to date the totals come out right. -/
theorem sumUp_eq :
    c.sumUp =
      c.withOutcome { c.outcome with totals := c.inputs.totals } := by
  unfold sumUp
  rw [checkedTotals_eq hMarked hFee, soundAmounts_eq hMarked]
  rfl

end Marked

/-
  Reworking gives the outcome of the inputs, whatever was
  written before: every part is worked out from the inputs or
  from a part that is up to date already.
-/
theorem rework_eq
    (c : Composition) :
    c.rework = c.recompute := by
  have hSum :
      c.markFaults.selectFee.sumUp =
        c.withOutcome
          { c.outcome with
            faults := c.inputs.faults
            fee := c.inputs.fee
            totals := c.inputs.totals } :=
    sumUp_eq rfl rfl
  have hFunds :
      c.markFaults.selectFee.sumUp.checkFunds =
        c.withOutcome
          { c.outcome with
            faults := c.inputs.faults
            fee := c.inputs.fee
            totals := c.inputs.totals
            shortfall := c.inputs.shortfall? } := by
    rw [hSum]
    unfold checkFunds
    rw [soundAmounts_eq rfl]
    rfl
  unfold rework
  rw [hFunds]
  unfold collectWarnings
  rw [soundAddresses_eq rfl]
  rfl

/- In place, too, a composition starts as a new one. -/
theorem rework_unworked
    (config : Config) :
    (unworked config).rework = new config :=
  rework_eq (unworked config)

end Composition

------------------------------------------------------------
-- Editors
------------------------------------------------------------

namespace Composer

open Remit.Composition

section Steps

variable
  {α β : Type} {x : Composer α} {next : α → Composer β}
  {c d : Composition}

/- After what succeeds comes the next. -/
theorem run_bind_of_ok
    {a : α}
    (h : x.run c = .ok a d) :
    (x >>= next).run c = (next a).run d := by
  change EStateM.bind x next c = next a d
  unfold EStateM.bind
  rw [show x c = _ from h]

/- After what fails comes nothing. -/
theorem run_bind_of_error
    {e : SendError}
    (h : x.run c = .error e d) :
    (x >>= next).run c = .error e d := by
  change EStateM.bind x next c = _
  unfold EStateM.bind
  rw [show x c = _ from h]

end Steps

/- An editor does what an edit does, or fails as that is refused. -/
def result
    (c : Composition) : Except SendError Composition →
      EStateM.Result SendError Composition Unit
| .ok d => .ok () d
| .error e => .error e c

variable (c : Composition)

/- Writing other inputs and reworking gives their composition. -/
theorem run_rewrite
    (change : Inputs → Inputs) :
    (rewrite change).run c = .ok () (ofInputs (change c.inputs)) :=
  congrArg (EStateM.Result.ok ())
    (rework_eq (c.withInputs (change c.inputs)))

/- A row that is there passes. -/
theorem run_requireRow
    (row : Nat) :
    (requireRow row).run c =
      if row < c.rows.length then
        .ok () c
      else
        .error (.noSuchRow row c.rows.length) c := by
  change (if row < c.rows.length then
      (pure () : Composer Unit)
    else
      throw (.noSuchRow row c.rows.length)).run c = _
  split <;> rfl

/- One row is changed if it is there. -/
theorem run_changeRow
    (row : Nat)
    (change : Recipient → Recipient) :
    (changeRow row change).run c = result c (c.setRow row change) := by
  have hRequired := run_requireRow c row
  unfold changeRow setRow
  split
  · rename_i hRow
    rw [if_pos hRow] at hRequired
    rw [run_bind_of_ok hRequired, run_rewrite]
    rfl
  · rename_i hRow
    rw [if_neg hRow] at hRequired
    exact run_bind_of_error hRequired

/- Rows are written in place whatever their marks are. -/
theorem rework_withMarked
    (rows : List Recipient)
    (marks : List (Option Fault)) :
    (c.withMarked rows marks).rework = c.setRows rows :=
  rework_eq (c.withMarked rows marks)

/- A row is added if there is room, and gets the next number. -/
theorem run_addRow
    (r : Recipient)
    (mark : Option Fault) :
    (addRow r mark).run c =
      if c.inputs.config.maxRecipients ≤ c.rows.length then
        .error c.tooMany c
      else
        .ok c.rows.length (c.setRows (c.rows ++ [r])) := by
  have hRework :=
    rework_withMarked c (c.rows ++ [r]) (c.outcome.faults ++ [mark])
  have hLength : (c.rows ++ [r]).length - 1 = c.rows.length := by
    rw [List.length_append]
    rfl
  change
    (if c.inputs.config.maxRecipients ≤ c.rows.length then
      (throw c.tooMany : Composer Nat)
    else do
      set (c.withMarked (c.rows ++ [r]) (c.outcome.faults ++ [mark]))
      modify rework
      return (← get).rows.length - 1).run c = _
  split
  · rfl
  · change
      EStateM.Result.ok ((c.withMarked _ _).rework.rows.length - 1)
        (c.withMarked _ _).rework = _
    rw [hRework]
    exact congrArg (EStateM.Result.ok · _) hLength

/- A row is removed if it is there, and is given back. -/
theorem run_removeRow
    (row : Nat) :
    (removeRow row).run c =
      match c.rows[row]? with
      | none => .error (.noSuchRow row c.rows.length) c
      | some r =>
          .ok (r, c.outcome.faults[row]?.join)
            (c.setRows (c.rows.eraseIdx row)) := by
  have hRework :=
    rework_withMarked c (c.rows.eraseIdx row)
      (c.outcome.faults.eraseIdx row)
  change
    (match c.rows[row]? with
      | none => throw (SendError.noSuchRow row c.rows.length)
      | some r => do
          set
            (c.withMarked (c.rows.eraseIdx row)
              (c.outcome.faults.eraseIdx row))
          modify rework
          return (r, c.outcome.faults[row]?.join) :
      Composer (Recipient × Option Fault)).run c = _
  split
  · rfl
  · exact congrArg (EStateM.Result.ok _) hRework

/- There is a most only for a row that is there. -/
theorem lt_of_mostFor
    {c : Composition}
    {row : Nat}
    {most : Amount}
    (h : c.mostFor row = .ok most) :
    row < c.rows.length := by
  unfold mostFor at h
  split at h
  · assumption
  · cases h

/- The most is written into a row that is there, and told. -/
theorem run_applyMost
    (row : Nat) :
    (applyMost row).run c =
      match c.mostFor row with
      | .error e => .error e c
      | .ok most =>
          .ok most
            (c.setRows
              (c.rows.modify row
                ({ · with amountText := most.shortText }))) := by
  change
    (match c.mostFor row with
      | .error e => (throw e : Composer Amount)
      | .ok most => do
          changeRow row ({ · with amountText := most.shortText })
          return most).run c = _
  cases hMost : c.mostFor row with
  | error e => rfl
  | ok most =>
      have hRow := lt_of_mostFor hMost
      have hChanged :=
        run_changeRow c row ({ · with amountText := most.shortText })
      unfold setRow at hChanged
      rw [if_pos hRow] at hChanged
      exact run_bind_of_ok hChanged

/- All rows are replaced, or none. -/
theorem run_loadRows
    (rows : List ImportRow) :
    (loadRows rows).run c =
      if c.inputs.config.maxRecipients < rows.length then
        .error c.tooMany c
      else
        .ok () (c.setRows (rows.map ImportRow.toRecipient)) := by
  have hRework :=
    rework_withMarked c (rows.map ImportRow.toRecipient)
      (rows.map (fun _ => none))
  change
    (if c.inputs.config.maxRecipients < rows.length then
      (throw c.tooMany : Composer Unit)
    else do
      set
        (c.withMarked (rows.map ImportRow.toRecipient)
          (rows.map (fun _ => none)))
      modify rework).run c = _
  split
  · rfl
  · exact congrArg (EStateM.Result.ok ()) hRework

/-
  An entry that is made in place succeeds or fails as it does on
  the inputs alone, and when it fails it has written nothing. A
  mark that an added row comes with does not matter.
-/
theorem run_enter
    (mark : Option Fault)
    (entry : Entry) :
    (enter mark entry).run c = result c (c.enter entry) := by
  cases entry with
  | add r =>
      have hRun := run_addRow c r mark
      change (do let _ ← addRow r mark).run c = _
      unfold Composition.enter
      by_cases hFull : c.inputs.config.maxRecipients ≤ c.rows.length
      · rw [if_pos hFull] at hRun
        simp only [if_pos hFull]
        exact run_bind_of_error hRun
      · rw [if_neg hFull] at hRun
        simp only [if_neg hFull]
        exact run_bind_of_ok hRun
  | remove row =>
      have hRun := run_removeRow c row
      change (do let _ ← removeRow row).run c = _
      unfold Composition.enter
      by_cases hRow : row < c.rows.length
      · rw [List.getElem?_eq_getElem hRow] at hRun
        simp only [if_pos hRow]
        exact run_bind_of_ok hRun
      · rw [List.getElem?_eq_none (Nat.not_lt.mp hRow)] at hRun
        simp only [if_neg hRow]
        exact run_bind_of_error hRun
  | address row text => exact run_changeRow c row _
  | amount row text => exact run_changeRow c row _
  | memo row text => exact run_changeRow c row _
  | memoBytes row bytes => exact run_changeRow c row _
  | label row text => exact run_changeRow c row _
  | most row =>
      have hRun := run_applyMost c row
      change (do let _ ← applyMost row).run c = _
      simp only [Composition.enter]
      cases hMost : c.mostFor row with
      | error e =>
          rw [hMost] at hRun
          exact run_bind_of_error hRun
      | ok most =>
          rw [hMost] at hRun
          unfold setRow
          simp only [if_pos (lt_of_mostFor hMost)]
          exact run_bind_of_ok hRun
  | preset p => exact run_rewrite c (fun i => { i with preset := p })
  | customFee fee =>
      exact
        run_rewrite c
          (fun i => { i with preset := .custom, customFee := some fee })
  | load rows =>
      have hRun := run_loadRows c rows
      change (loadRows rows).run c = _
      simp only [Composition.enter]
      split
      · rename_i hMany
        rw [if_pos hMany] at hRun
        exact hRun
      · rename_i hFits
        rw [if_neg hFits] at hRun
        exact hRun
  | clear =>
      have hWritten :
          (modify (fun c => c.withMarked [] []) : Composer Unit).run c =
            .ok () (c.withMarked [] []) :=
        rfl
      exact (run_bind_of_ok hWritten).trans (run_rewrite _ _)

end Composer

end Remit
