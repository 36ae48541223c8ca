import Remit.Composition.View
import Remit.Proofs.Composition.InPlace

/-
  This file proves that the history of a composition that is
  edited in place does not matter: what follows from the inputs
  follows from them alone. The bounds of the fee count only for
  the policy that they make.

  Key definitions include:
    * `Composer.edit`
    * `Composition.worked`
    * `Inputs.Alike`
    * `Composition.AreSame`
    * `Composition.IsDetermined`

  Key theorems include:
    * `Composer.run_edit`
    * `Composition.worked_eq_after`
    * `Inputs.Alike.outcome_eq`
    * `Composition.isDetermined_worked`
-/

namespace Remit

------------------------------------------------------------
-- Histories in Place
------------------------------------------------------------

namespace Composer

open Remit.Composition

/- An edit in place; only an added row comes with a mark. -/
def edit (mark : Option Fault) : Edit → Composer Unit
| .entry e => enter mark e
| .scope s => rewrite (fun i => { i with scope := s })
| .balance b => rewrite (fun i => { i with balance := b })
| .bounds b => rewrite (fun i => { i with bounds := b })

/- What an editor has written, whether or not it failed. -/
def written {α : Type} (x : Composer α) (c : Composition) : Composition :=
  match x.run c with
  | .ok _ d => d
  | .error _ d => d

variable (c : Composition) (mark : Option Fault) (e : Edit)

/- An edit in place succeeds or fails as it does on the inputs. -/
theorem run_edit :
    (edit mark e).run c = result c (c.edit? e) := by
  cases e with
  | entry e => exact run_enter c mark e
  | scope s => exact run_rewrite c (fun i => { i with scope := s })
  | balance b => exact run_rewrite c (fun i => { i with balance := b })
  | bounds b => exact run_rewrite c (fun i => { i with bounds := b })

/- An edit in place writes what the edit comes to. -/
theorem written_edit :
    (edit mark e).written c = c.edited e := by
  unfold written edited
  rw [run_edit]
  cases c.edit? e <;> rfl

/- An edit that fails has written nothing. -/
theorem eq_of_run_edit_error
    {cause : SendError}
    {d : Composition}
    (h : (edit mark e).run c = .error cause d) :
    d = c := by
  rw [run_edit] at h
  cases hEdit : c.edit? e with
  | ok d' =>
      rw [hEdit] at h
      cases h
  | error cause' =>
      rw [hEdit] at h
      cases h
      rfl

end Composer

namespace Composition

/-
  The composition that edits in place lead to, whether or not
  they fail, each with the mark of the row that it may add.
-/
def worked
    (config : Config)
    (steps : List (Edit × Option Fault)) : Composition :=
  steps.foldl (fun c step => (Composer.edit step.2 step.1).written c)
    (unworked config).rework

/- Edits in place lead where the edits lead to. -/
theorem worked_eq_after
    (config : Config)
    (steps : List (Edit × Option Fault)) :
    worked config steps = after config (steps.map Prod.fst) := by
  unfold worked after
  rw [rework_unworked, List.foldl_map]
  congr 1
  funext c step
  exact Composer.written_edit c step.2 step.1

end Composition

------------------------------------------------------------
-- Inputs That Are Alike
------------------------------------------------------------

/-
  Inputs are alike if they differ in the bounds of the fee at
  most, and these make the same policy.
-/
structure Inputs.Alike (i j : Inputs) : Prop where
  eq_bounds : { i with bounds := j.bounds } = j
  policy_eq : i.config.feePolicy i.bounds = i.config.feePolicy j.bounds

/- Inputs that are alike have the same outcome. -/
theorem Inputs.Alike.outcome_eq
    {i j : Inputs}
    (h : i.Alike j) :
    j.outcome = i.outcome := by
  rw [← h.eq_bounds]
  have hFee : ({ i with bounds := j.bounds } : Inputs).fee = i.fee := by
    unfold Inputs.fee
    rw [h.policy_eq]
  have hTotals :
      ({ i with bounds := j.bounds } : Inputs).totals = i.totals := by
    unfold Inputs.totals Inputs.exactTotals
    rw [hFee]
    rfl
  unfold Inputs.outcome Inputs.shortfall? Inputs.warnings
    Inputs.feeWarnings
  rw [hFee, hTotals]
  rfl

namespace Composition

/- Two compositions look the same, and ask for the same payment. -/
structure AreSame (c d : Composition) : Prop where
  outcome : c.outcome = d.outcome
  view : c.view = d.view
  fingerprint : c.fingerprint = d.fingerprint
  validate : c.validate = d.validate

/- Compositions of inputs that are alike are the same. -/
theorem areSame_of_alike
    {i j : Inputs}
    (h : i.Alike j) :
    (ofInputs i).AreSame (ofInputs j) := by
  have hOutcome := h.outcome_eq
  have hSame :
      ofInputs j =
        (ofInputs i).withInputs { i with bounds := j.bounds } := by
    unfold ofInputs
    rw [hOutcome, h.eq_bounds]
    rfl
  rw [hSame]
  exact ⟨rfl, rfl, rfl, rfl⟩

------------------------------------------------------------
-- Determinacy
------------------------------------------------------------

/-
  A composition is what its inputs make of it: its outcome is
  theirs, and reworking changes nothing. There are no more rows
  than allowed. An edit that fails leaves it as it is. Any other
  history that ends with inputs that are alike ends with the
  same composition.
-/
structure IsDetermined (config : Config) (c : Composition) : Prop where
  outcome_eq : c.outcome = c.inputs.outcome
  rework_eq : c.rework = c
  length_le : c.rows.length ≤ config.maxRecipients
  failed :
    ∀ mark e cause d,
      (Composer.edit mark e).run c = .error cause d → d = c
  same :
    ∀ config' steps,
      c.inputs.Alike (worked config' steps).inputs →
        c.AreSame (worked config' steps)

/- Histories in place lead to sound compositions. -/
theorem sound_worked
    (config : Config)
    (steps : List (Edit × Option Fault)) :
    Sound config (worked config steps) := by
  rw [worked_eq_after]
  exact sound_of_reachable (reachable_after config _)

/- A sound composition is that of its inputs. -/
theorem Sound.eq_ofInputs
    {config : Config}
    {c : Composition}
    (h : Sound config c) :
    ofInputs c.inputs = c := by
  unfold ofInputs
  rw [← h.outcome_eq]

/- Whatever the history in place, its composition is determined. -/
theorem isDetermined_worked
    (config : Config)
    (steps : List (Edit × Option Fault)) :
    (worked config steps).IsDetermined config := by
  have hSound := sound_worked config steps
  refine
    { outcome_eq := hSound.outcome_eq
      rework_eq := (rework_eq _).trans hSound.eq_ofInputs
      length_le := hSound.length_le
      failed := fun mark e cause d =>
        Composer.eq_of_run_edit_error (worked config steps) mark e
      same := ?_ }
  intro config' steps' hAlike
  have hSame := areSame_of_alike hAlike
  rw [hSound.eq_ofInputs, (sound_worked config' steps').eq_ofInputs]
    at hSame
  exact hSame

/- Bounds that leave room for a large fee. -/
def wideBounds (usual : Nat) : FeeBounds where
  least := Amount.capped 10000
  usual := Amount.capped usual
  most := Amount.capped 5000000

/-
  A fee above the bounds, a row that is not there, wider bounds,
  and a row that comes with a mark.
-/
def longHistory : List (Edit × Option Fault) :=
  [(.entry (.customFee (Amount.capped 2000000)), none),
   (.entry (.remove 3), none),
   (.bounds (wideBounds 10000), none),
   (.entry (.add Recipient.blank), some .memoInvalid)]

/- Other bounds of the same policy, the row, and then the fee. -/
def shortHistory : List (Edit × Option Fault) :=
  [(.bounds (wideBounds 5), none),
   (.entry (.add Recipient.blank), none),
   (.entry (.customFee (Amount.capped 2000000)), none)]

/- Both histories come to the same, with the fee that was asked for. -/
theorem isDetermined_worked_specimen :
    (worked {} longHistory).AreSame (worked {} shortHistory) ∧
      (worked {} longHistory).fee = Amount.capped 2000000 := by
  have hAlike :
      (worked {} longHistory).inputs.Alike
        (worked {} shortHistory).inputs :=
    ⟨rfl, rfl⟩
  exact ⟨(isDetermined_worked {} longHistory).same {} _ hAlike, rfl⟩

end Composition

end Remit
