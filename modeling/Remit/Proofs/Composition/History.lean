import Remit.Composition.Basic

/-
  This file follows a composition through its edits. An edit
  that is refused leaves the composition as it was; one that is
  taken works the outcome out anew and keeps the settings and
  the limit on rows.

  Key definitions include:
    * `Composition.Edit`
    * `Composition.edited`
    * `Composition.after`
    * `Composition.IsEntered`
    * `Composition.Sound`

  Key theorems include:
    * `Composition.isEntered_of_enter`
    * `Composition.sound_of_reachable`
    * `Composition.reachable_after`
-/

namespace Remit

namespace Composition

------------------------------------------------------------
-- Histories
------------------------------------------------------------

/- What can be done to a composition: entries and settings. -/
inductive Edit where
| entry (e : Entry)
| scope (s : Scope)
| balance (b : Balance)
| bounds (b : FeeBounds)
deriving DecidableEq, Repr

/- The composition with an edit, unless that is refused. -/
def edit? (c : Composition) : Edit → Except SendError Composition
| .entry e => c.enter e
| .scope s => .ok (c.setScope s)
| .balance b => .ok (c.setBalance b)
| .bounds b => .ok (c.setBounds b)

/- The composition once an edit was tried. -/
def edited (c : Composition) (e : Edit) : Composition :=
  match c.edit? e with
  | .ok d => d
  | .error _ => c

/- The composition that edits lead to, taken and refused ones. -/
def after (config : Config) (edits : List Edit) : Composition :=
  edits.foldl edited (new config)

------------------------------------------------------------
-- What an Entry Changes
------------------------------------------------------------

/-
  A composition differs from another in the rows, the preset and
  the custom fee only, and has no more rows than that one or
  than allowed.
-/
def IsEntered (c : Composition) (d : Composition) : Prop :=
  ∃ rows preset fee,
    d = ofInputs
        { c.inputs with
          rows := rows, preset := preset, customFee := fee } ∧
      (rows.length ≤ c.rows.length ∨
        rows.length ≤ c.inputs.config.maxRecipients)

/- Changing one row keeps the number of rows. -/
theorem isEntered_of_setRow
    {c d : Composition}
    {row : Nat}
    {change : Recipient → Recipient}
    (h : c.setRow row change = .ok d) :
    c.IsEntered d := by
  unfold setRow at h
  split at h
  · have hLength := List.length_modify change c.rows row
    exact
      ⟨c.rows.modify row change, c.inputs.preset,
        c.inputs.customFee, (Except.ok.inj h).symm,
        Or.inl (Nat.le_of_eq hLength)⟩
  · cases h

/- An entry touches nothing else, and rows stay within limits. -/
theorem isEntered_of_enter
    {c d : Composition}
    {e : Entry}
    (h : c.enter e = .ok d) :
    c.IsEntered d := by
  cases e with
  | add r =>
      simp only [enter] at h
      split at h
      · cases h
      · rename_i hRoom
        refine
          ⟨c.rows ++ [r], c.inputs.preset, c.inputs.customFee,
            (Except.ok.inj h).symm, Or.inr ?_⟩
        rw [List.length_append, List.length_singleton]
        omega
  | remove row =>
      simp only [enter] at h
      split at h
      · exact
          ⟨c.rows.eraseIdx row, c.inputs.preset,
            c.inputs.customFee, (Except.ok.inj h).symm,
            Or.inl (List.length_eraseIdx_le c.rows row)⟩
      · cases h
  | address row text => exact isEntered_of_setRow h
  | amount row text => exact isEntered_of_setRow h
  | memo row text => exact isEntered_of_setRow h
  | memoBytes row bytes => exact isEntered_of_setRow h
  | label row text => exact isEntered_of_setRow h
  | most row =>
      simp only [enter] at h
      cases hMost : c.mostFor row with
      | error e =>
          rw [hMost] at h
          cases h
      | ok a =>
          rw [hMost] at h
          exact isEntered_of_setRow h
  | preset p =>
      exact
        ⟨c.rows, p, c.inputs.customFee, (Except.ok.inj h).symm,
          Or.inl (Nat.le_refl _)⟩
  | customFee fee =>
      exact
        ⟨c.rows, .custom, some fee, (Except.ok.inj h).symm,
          Or.inl (Nat.le_refl _)⟩
  | load rows =>
      simp only [enter] at h
      split at h
      · cases h
      · rename_i hFits
        refine
          ⟨rows.map ImportRow.toRecipient, c.inputs.preset,
            c.inputs.customFee, (Except.ok.inj h).symm,
            Or.inr ?_⟩
        rw [List.length_map]
        omega
  | clear =>
      exact
        ⟨[], .standard, none, (Except.ok.inj h).symm,
          Or.inl (Nat.zero_le _)⟩

/- No row is changed unless it is there. -/
theorem setRow_eq_error
    {c : Composition}
    {row : Nat}
    {change : Recipient → Recipient}
    {e : SendError}
    (h : c.setRow row change = .error e) :
    e = .noSuchRow row c.rows.length := by
  unfold setRow at h
  split at h
  · cases h
  · cases h
    rfl

/- An entry is refused for a missing row or for want of room. -/
theorem enter_eq_error
    {c : Composition}
    {entry : Entry}
    {e : SendError}
    (h : c.enter entry = .error e) :
    e = c.tooMany ∨ ∃ row, e = .noSuchRow row c.rows.length := by
  cases entry with
  | add r =>
      simp only [enter] at h
      split at h <;> cases h
      exact Or.inl rfl
  | remove row =>
      simp only [enter] at h
      split at h <;> cases h
      exact Or.inr ⟨row, rfl⟩
  | address row text => exact Or.inr ⟨row, setRow_eq_error h⟩
  | amount row text => exact Or.inr ⟨row, setRow_eq_error h⟩
  | memo row text => exact Or.inr ⟨row, setRow_eq_error h⟩
  | memoBytes row bytes => exact Or.inr ⟨row, setRow_eq_error h⟩
  | label row text => exact Or.inr ⟨row, setRow_eq_error h⟩
  | most row =>
      simp only [enter] at h
      cases hMost : c.mostFor row with
      | error e' =>
          rw [hMost] at h
          cases h
          unfold mostFor at hMost
          split at hMost <;> cases hMost
          exact Or.inr ⟨row, rfl⟩
      | ok a =>
          rw [hMost] at h
          exact Or.inr ⟨row, setRow_eq_error h⟩
  | preset p => cases h
  | customFee fee => cases h
  | load rows =>
      simp only [enter] at h
      split at h <;> cases h
      exact Or.inl rfl
  | clear => cases h

------------------------------------------------------------
-- What Every Edit Keeps
------------------------------------------------------------

/-
  The settings are those the composition was made with, the
  outcome is that of the inputs, and the rows are no more than
  the settings allow.
-/
structure Sound (config : Config) (c : Composition) : Prop where
  config_eq : c.inputs.config = config
  outcome_eq : c.outcome = c.inputs.outcome
  length_le : c.rows.length ≤ config.maxRecipients

/- A new composition is sound. -/
theorem sound_new
    (config : Config) :
    Sound config (new config) where
  config_eq := rfl
  outcome_eq := rfl
  length_le := Nat.zero_le _

/- An entry keeps a composition sound. -/
theorem Sound.enter
    {config : Config}
    {c d : Composition}
    {e : Entry}
    (hc : Sound config c)
    (hd : c.enter e = .ok d) :
    Sound config d := by
  rcases isEntered_of_enter hd with ⟨rows, preset, fee, rfl, hLength⟩
  refine ⟨hc.config_eq, rfl, ?_⟩
  have hBefore := hc.length_le
  rw [hc.config_eq] at hLength
  change rows.length ≤ config.maxRecipients
  omega

/- Entries and settings keep a composition sound. -/
theorem sound_of_reachable
    {config : Config}
    {c : Composition}
    (h : Reachable config c) :
    Sound config c := by
  induction h with
  | new => exact sound_new config
  | enter e _ hd ih => exact ih.enter hd
  | setScope s _ ih => exact ⟨ih.config_eq, rfl, ih.length_le⟩
  | setBalance b _ ih => exact ⟨ih.config_eq, rfl, ih.length_le⟩
  | setBounds b _ ih => exact ⟨ih.config_eq, rfl, ih.length_le⟩

/- An edit leads from one reachable composition to another. -/
theorem Reachable.edited
    {config : Config}
    {c : Composition}
    (hc : Reachable config c)
    (e : Edit) :
    Reachable config (c.edited e) := by
  unfold Composition.edited
  cases e with
  | entry e =>
      change Reachable config (match c.enter e with
        | .ok d => d
        | .error _ => c)
      cases hEnter : c.enter e with
      | ok d => exact hc.enter e hEnter
      | error _ => exact hc
  | scope s => exact hc.setScope s
  | balance b => exact hc.setBalance b
  | bounds b => exact hc.setBounds b

/- Edits lead to reachable compositions only. -/
theorem reachable_after
    (config : Config)
    (edits : List Edit) :
    Reachable config (after config edits) := by
  suffices h :
      ∀ c, Reachable config c →
        Reachable config (edits.foldl Composition.edited c) from
    h _ Reachable.new
  induction edits with
  | nil => exact fun _ hc => hc
  | cons e edits ih => exact fun c hc => ih _ (hc.edited e)

end Composition

end Remit
