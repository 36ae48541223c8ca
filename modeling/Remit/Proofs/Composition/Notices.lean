import Mathlib.Data.List.Sort
import Remit.Proofs.Composition.Determinacy
import Remit.Proofs.Composition.Repeats
import Remit.Proofs.Fee.Bounds

/-
  This file shows what a composition is warned about. Its inputs
  warrant warnings of three kinds: that a row pays an address
  which an earlier row pays, that a memo is nearly full, and that
  a custom fee was moved into its bounds. After any history in
  place, the warnings are exactly those, by kind and by row.

  Key definitions include:
    * `Warning.Precedes`
    * `Inputs.Warrants`
    * `Inputs.IsWarnedOf`

  Key theorems include:
    * `Inputs.mem_memoWarnings_iff`
    * `Inputs.mem_feeWarnings_iff`
    * `Inputs.isWarnedOf_warnings`
    * `Composition.warnings_worked_eq_iff`
-/

namespace Remit

------------------------------------------------------------
-- The Order of Warnings
------------------------------------------------------------

namespace Warning

/-
  Repeated addresses come first and the fee last. Among repeated
  addresses, and among memos, the rows rise.
-/
inductive Precedes : Warning → Warning → Prop where
| repeats
    {first row first' row' : Nat}
    (hRow : row < row') :
    Precedes (.duplicateAddress first row)
      (.duplicateAddress first' row')
| repeatMemo (first row row' bytes : Nat) :
    Precedes (.duplicateAddress first row) (.memoNearLimit row' bytes)
| repeatFee (first row : Nat) (requested applied : Amount) :
    Precedes (.duplicateAddress first row)
      (.customFeeAdjusted requested applied)
| memos
    {row bytes row' bytes' : Nat}
    (hRow : row < row') :
    Precedes (.memoNearLimit row bytes) (.memoNearLimit row' bytes')
| memoFee (row bytes : Nat) (requested applied : Amount) :
    Precedes (.memoNearLimit row bytes)
      (.customFeeAdjusted requested applied)

/- Of two warnings at most one precedes the other. -/
instance : Std.Asymm Precedes where
  asymm := by
    intro v w h h'
    cases h with
    | repeats hRow =>
        cases h' with
        | repeats hRow' => exact Nat.lt_asymm hRow hRow'
    | memos hRow =>
        cases h' with
        | memos hRow' => exact Nat.lt_asymm hRow hRow'
    | repeatMemo | repeatFee | memoFee => cases h'

end Warning

namespace Inputs

------------------------------------------------------------
-- What Inputs Warrant
------------------------------------------------------------

/-
  The warnings that inputs warrant: that a row pays the address
  of an earlier one, where the earliest such row is told; that a
  memo, be its row valid or not, is long but fits; and that a
  custom fee is less than the least or more than the most, and
  that bound applies.
-/
inductive Warrants (i : Inputs) : Warning → Prop where
| repeated
    {first row : Nat}
    {address : String}
    (hEarlier : first < row)
    (hFirst : i.PaysTo first address)
    (hRow : i.PaysTo row address)
    (hEarliest : ∀ other < first, ¬ i.PaysTo other address) :
    Warrants i (.duplicateAddress first row)
| memo
    {row : Nat}
    {r : Recipient}
    {m : Memo}
    (hRow : i.rows[row]? = some r)
    (hMemo : r.memo = some m)
    (hLong : i.config.memoWarningBytes ≤ m.size)
    (hFits : m.size ≤ 512) :
    Warrants i (.memoNearLimit row m.size)
| feeBelow
    {requested : Amount}
    (hPreset : i.preset = .custom)
    (hEntered : i.customFee = some requested)
    (hBelow : requested < i.fee.least) :
    Warrants i (.customFeeAdjusted requested i.fee.least)
| feeAbove
    {requested : Amount}
    (hPreset : i.preset = .custom)
    (hEntered : i.customFee = some requested)
    (hAbove : i.fee.most < requested) :
    Warrants i (.customFeeAdjusted requested i.fee.most)

/- The warnings are exactly those that are warranted, in order. -/
structure IsWarnedOf (i : Inputs) (ws : List Warning) : Prop where
  inOrder : ws.Pairwise Warning.Precedes
  mem_iff : ∀ w, w ∈ ws ↔ i.Warrants w

/- There is one way only to warn of the same inputs. -/
theorem IsWarnedOf.unique
    {i : Inputs}
    {ws others : List Warning}
    (h : i.IsWarnedOf ws)
    (hOther : i.IsWarnedOf others) :
    ws = others := by
  apply h.inOrder.eq_of_mem_iff hOther.inOrder
  intro w
  exact (h.mem_iff w).trans (hOther.mem_iff w).symm

variable {i : Inputs}
variable {w : Warning}

------------------------------------------------------------
-- Memos
------------------------------------------------------------

/- A memo is warned about if it is long but fits. -/
theorem memoWarning?_eq_some_iff
    {c : Config}
    {r : Recipient}
    {row : Nat} :
    memoWarning? c r row = some w ↔
      ∃ m,
        r.memo = some m ∧ c.memoWarningBytes ≤ m.size ∧
          m.size ≤ 512 ∧ w = .memoNearLimit row m.size := by
  unfold memoWarning?
  cases r.memo with
  | none => simp
  | some m =>
      change
        (if c.memoWarningBytes ≤ m.size ∧ m.size ≤ 512 then
            some (Warning.memoNearLimit row m.size)
          else
            none) = some w ↔ _
      rw [Option.ite_none_right_eq_some]
      constructor
      · rintro ⟨⟨hLong, hFits⟩, hEq⟩
        exact ⟨m, rfl, hLong, hFits, (Option.some.inj hEq).symm⟩
      · rintro ⟨_, hMemo, hLong, hFits, rfl⟩
        cases hMemo
        exact ⟨⟨hLong, hFits⟩, rfl⟩

/- The warnings about memos tell of the long ones that fit. -/
theorem mem_memoWarnings_iff :
    w ∈ i.memoWarnings ↔
      ∃ row r m,
        w = .memoNearLimit row m.size ∧ i.rows[row]? = some r ∧
          r.memo = some m ∧ i.config.memoWarningBytes ≤ m.size ∧
          m.size ≤ 512 := by
  unfold memoWarnings
  rw [List.mem_filterMap]
  constructor
  · rintro ⟨⟨r, row⟩, hEntry, hWarning⟩
    rcases memoWarning?_eq_some_iff.mp hWarning with
      ⟨m, hMemo, hLong, hFits, rfl⟩
    have hRow := List.mem_zipIdx_iff_getElem?.mp hEntry
    exact ⟨row, r, m, rfl, hRow, hMemo, hLong, hFits⟩
  · rintro ⟨row, r, m, rfl, hRow, hMemo, hLong, hFits⟩
    refine ⟨(r, row), List.mem_zipIdx_iff_getElem?.mpr hRow, ?_⟩
    exact
      memoWarning?_eq_some_iff.mpr ⟨m, hMemo, hLong, hFits, rfl⟩

------------------------------------------------------------
-- Fees
------------------------------------------------------------

/- A custom fee that was entered is moved within the bounds. -/
theorem selected_fee_of_custom
    {requested : Amount}
    (hPreset : i.preset = .custom)
    (hEntered : i.customFee = some requested) :
    i.fee.selected =
      (i.config.feePolicy i.bounds).clamp i.rows.length requested := by
  unfold fee FeeSelection.ofPolicy
  rw [hPreset, hEntered]
  rfl

/- What is told to be adjusted is a custom fee that was moved. -/
theorem adjusted?_fee_eq_some_iff
    {requested : Amount} :
    i.fee.adjusted? = some requested ↔
      i.preset = .custom ∧ i.customFee = some requested ∧
        i.fee.selected ≠ requested := by
  change
    (if i.preset = .custom then
        i.customFee.filter (· ≠ i.fee.selected)
      else
        none) = some requested ↔ _
  rw [Option.ite_none_right_eq_some, Option.filter_eq_some_iff,
    decide_eq_true_iff, ne_comm]

/- The warning about the fee tells what was adjusted. -/
theorem mem_feeWarnings_iff_adjusted? :
    w ∈ i.feeWarnings ↔
      ∃ requested,
        i.fee.adjusted? = some requested ∧
          w = .customFeeAdjusted requested i.fee.selected := by
  unfold feeWarnings
  cases i.fee.adjusted? with
  | none => simp
  | some requested => simp

/-
  The warning about the fee tells of a custom fee outside of the
  bounds, and of the bound that it was moved to.
-/
theorem mem_feeWarnings_iff :
    w ∈ i.feeWarnings ↔
      ∃ requested applied,
        w = .customFeeAdjusted requested applied ∧
          i.preset = .custom ∧ i.customFee = some requested ∧
          ((requested < i.fee.least ∧ applied = i.fee.least) ∨
            (i.fee.most < requested ∧ applied = i.fee.most)) := by
  rw [mem_feeWarnings_iff_adjusted?]
  constructor
  · rintro ⟨requested, hAdjusted, rfl⟩
    rcases adjusted?_fee_eq_some_iff.mp hAdjusted with
      ⟨hPreset, hEntered, hMoved⟩
    refine ⟨requested, _, rfl, hPreset, hEntered, ?_⟩
    rw [selected_fee_of_custom hPreset hEntered] at hMoved ⊢
    rcases (FeePolicy.clamp_ne_iff _ _).mp hMoved with hBelow | hAbove
    · exact Or.inl ⟨hBelow, FeePolicy.clamp_of_lt_leastFee _ _ hBelow⟩
    · exact Or.inr ⟨hAbove, FeePolicy.clamp_of_mostFee_lt _ _ hAbove⟩
  · rintro ⟨requested, applied, rfl, hPreset, hEntered, hOutside⟩
    have hSelected := selected_fee_of_custom hPreset hEntered
    have hMoved : i.fee.selected ≠ requested := by
      rw [hSelected, FeePolicy.clamp_ne_iff]
      exact hOutside.imp And.left And.left
    refine
      ⟨requested,
        adjusted?_fee_eq_some_iff.mpr ⟨hPreset, hEntered, hMoved⟩, ?_⟩
    rw [hSelected]
    rcases hOutside with ⟨hBelow, rfl⟩ | ⟨hAbove, rfl⟩
    · rw [FeePolicy.clamp_of_lt_leastFee _ _ hBelow]
      rfl
    · rw [FeePolicy.clamp_of_mostFee_lt _ _ hAbove]
      rfl

------------------------------------------------------------
-- All Warnings
------------------------------------------------------------

/- A warning is given exactly if it is warranted. -/
theorem mem_warnings_iff :
    w ∈ i.warnings ↔ i.Warrants w := by
  unfold warnings
  rw [List.mem_append, List.mem_append, mem_memoWarnings_iff,
    mem_repeated_validAddresses_iff, mem_feeWarnings_iff]
  constructor
  · rintro ((hRepeat | hMemo) | hFee)
    · rcases hRepeat with
        ⟨first, row, address, rfl, hEarlier, hFirst, hRow, hEarliest⟩
      exact .repeated hEarlier hFirst hRow hEarliest
    · rcases hMemo with ⟨row, r, m, rfl, hRow, hMemo, hLong, hFits⟩
      exact .memo hRow hMemo hLong hFits
    · rcases hFee with ⟨requested, _, rfl, hPreset, hEntered, hOutside⟩
      rcases hOutside with ⟨hBelow, rfl⟩ | ⟨hAbove, rfl⟩
      · exact .feeBelow hPreset hEntered hBelow
      · exact .feeAbove hPreset hEntered hAbove
  · intro h
    cases h with
    | repeated hEarlier hFirst hRow hEarliest =>
        exact
          Or.inl
            (Or.inl ⟨_, _, _, rfl, hEarlier, hFirst, hRow, hEarliest⟩)
    | memo hRow hMemo hLong hFits =>
        exact
          Or.inl (Or.inr ⟨_, _, _, rfl, hRow, hMemo, hLong, hFits⟩)
    | feeBelow hPreset hEntered hBelow =>
        exact
          Or.inr
            ⟨_, _, rfl, hPreset, hEntered, Or.inl ⟨hBelow, rfl⟩⟩
    | feeAbove hPreset hEntered hAbove =>
        exact
          Or.inr
            ⟨_, _, rfl, hPreset, hEntered, Or.inr ⟨hAbove, rfl⟩⟩

/- The warnings about entries that rise are in order. -/
theorem inOrder_repeated
    {seen entries : List (String × Nat)}
    (hRises : Rises entries) :
    (repeated seen entries).Pairwise Warning.Precedes := by
  induction entries generalizing seen with
  | nil => exact List.Pairwise.nil
  | cons entry rest ih =>
      rcases entry with ⟨address, row⟩
      rcases List.pairwise_cons.mp hRises with ⟨hHead, hRest⟩
      unfold repeated
      cases hSeen : seen.lookup address with
      | none => exact ih hRest
      | some first =>
          refine List.pairwise_cons.mpr ⟨fun w hw => ?_, ih hRest⟩
          rcases (mem_repeated_iff (fun _ => rfl)).mp hw with
            ⟨before, address', row', after, first', rfl, _, rfl⟩
          exact .repeats (hHead (address', row') (by simp))

/- The warnings about memos are in order. -/
theorem inOrder_memoWarnings
    (i : Inputs) :
    i.memoWarnings.Pairwise Warning.Precedes := by
  unfold memoWarnings
  apply (rises_zipIdx i.rows).filterMap
  intro entry entry' hRow w hw w' hw'
  rcases memoWarning?_eq_some_iff.mp hw with ⟨m, _, _, _, rfl⟩
  rcases memoWarning?_eq_some_iff.mp hw' with ⟨m', _, _, _, rfl⟩
  exact .memos hRow

/- There is at most one warning about the fee. -/
theorem inOrder_feeWarnings
    (i : Inputs) :
    i.feeWarnings.Pairwise Warning.Precedes := by
  unfold feeWarnings
  cases i.fee.adjusted? with
  | none => exact List.Pairwise.nil
  | some requested => exact List.pairwise_singleton _ _

/- All warnings are in order, as each kind is and the kinds are. -/
theorem inOrder_warnings
    (i : Inputs) :
    i.warnings.Pairwise Warning.Precedes := by
  have hRises := rises_validAddresses i
  unfold warnings
  rw [List.pairwise_append, List.pairwise_append]
  refine
    ⟨⟨inOrder_repeated hRises, inOrder_memoWarnings i, ?_⟩,
      inOrder_feeWarnings i, ?_⟩
  · intro v hv w hw
    rcases mem_repeated_validAddresses_iff.mp hv with
      ⟨first, row, _, rfl, _⟩
    rcases mem_memoWarnings_iff.mp hw with ⟨row', _, m, rfl, _⟩
    exact .repeatMemo first row row' m.size
  · intro v hv w hw
    rcases mem_feeWarnings_iff.mp hw with ⟨requested, applied, rfl, _⟩
    rcases List.mem_append.mp hv with hv | hv
    · rcases mem_repeated_validAddresses_iff.mp hv with
        ⟨first, row, _, rfl, _⟩
      exact .repeatFee first row requested applied
    · rcases mem_memoWarnings_iff.mp hv with ⟨row, _, m, rfl, _⟩
      exact .memoFee row m.size requested applied

/- The warnings of inputs are exactly those warranted, in order. -/
theorem isWarnedOf_warnings
    (i : Inputs) :
    i.IsWarnedOf i.warnings where
  inOrder := inOrder_warnings i
  mem_iff := fun _ => mem_warnings_iff

end Inputs

------------------------------------------------------------
-- Histories
------------------------------------------------------------

namespace Composition

/-
  Whatever the history in place, with refused edits and marks
  from elsewhere, the warnings are exactly what the inputs that
  it ends with warrant, in order.
-/
theorem warnings_worked_eq_iff
    (config : Config)
    (steps : List (Edit × Option Fault))
    (ws : List Warning) :
    (worked config steps).outcome.warnings = ws ↔
      (worked config steps).inputs.IsWarnedOf ws := by
  have hWarned :=
    (worked config steps).inputs.isWarnedOf_warnings
  rw [(sound_worked config steps).outcome_eq]
  constructor
  · rintro rfl
    exact hWarned
  · exact hWarned.unique

/- A row at fault with a long memo, and a fee below the least. -/
example :
    (worked {}
      [(.entry (.add Recipient.blank), some .memoInvalid),
       (.entry (.memoBytes 0 (some (List.replicate 400 0))), none),
       (.entry (.remove 1), none),
       (.entry (.customFee (Amount.capped 5)), none)]).outcome.warnings =
      [.memoNearLimit 0 400,
       .customFeeAdjusted (Amount.capped 5) (Amount.capped 10000)] := by
  decide +kernel

end Composition

end Remit
