import Remit.Taxonomy

/-
  This file defines the stages of a payment and the steps
  between them.

  Key definitions include:
    * `Stage`
    * `Stage.edges`
    * `Stage.Leads`
    * `StageError`
-/

namespace Remit

/- The stages that a payment goes through. -/
inductive Stage where
| idle
| composing
| building
| reviewing
| signing
| broadcasting
| complete
| failed
deriving DecidableEq, Repr

namespace Stage

/- Every stage. -/
def all : List Stage :=
  [idle, composing, building, reviewing, signing, broadcasting,
   complete, failed]

/- The name of a stage. -/
def name : Stage → String
| idle => "idle"
| composing => "composing"
| building => "building"
| reviewing => "reviewing"
| signing => "signing"
| broadcasting => "broadcasting"
| complete => "complete"
| failed => "failed"

/- The engine works on an answer. -/
def IsBusy (s : Stage) : Prop :=
  s = building ∨ s = signing ∨ s = broadcasting

instance (s : Stage) : Decidable s.IsBusy := by
  unfold IsBusy
  infer_instance

/- The steps from one stage to another. -/
def edges : List (Stage × Stage) :=
  [(idle, composing),
   (composing, idle),
   (composing, building),
   (building, reviewing),
   (building, composing),
   (reviewing, composing),
   (reviewing, signing),
   (signing, broadcasting),
   (signing, failed),
   (broadcasting, complete),
   (broadcasting, failed),
   (failed, composing),
   (complete, composing)]

/- There is a step from one stage to another. -/
def Leads (origin : Stage) (target : Stage) : Prop :=
  (origin, target) ∈ edges

instance (origin : Stage) (target : Stage) :
    Decidable (Leads origin target) := by
  unfold Leads
  infer_instance

/- The stages one step away. -/
def successors (s : Stage) : List Stage :=
  all.filter (fun target => Leads s target)

end Stage

/- Why an action does not suit the stage. -/
inductive StageError where
| notPermitted (action : String) (stage : Stage)
| noStep (origin : Stage) (target : Stage)
| noDraft
| staleDraft
deriving DecidableEq, Repr

namespace StageError

/- The wording of a stage failure. -/
def message : StageError → String
| notPermitted action stage =>
    "'" ++ action ++ "' is not permitted while the flow is "
      ++ stage.name
| noStep origin target =>
    "invalid transition from " ++ origin.name ++ " to " ++ target.name
| noDraft => "no built transaction is held"
| staleDraft => "held transaction no longer matches the composition"

/- The entry of a stage failure in the catalogue. -/
def taxonomy : StageError → Taxonomy
| notPermitted _ _ => .actionNotPermitted
| noStep _ _ => .invalidTransition
| noDraft => .missingTransaction
| staleDraft => .staleTransaction

end StageError

end Remit
