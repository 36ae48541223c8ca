import Remit.Fault
import Remit.Shortfall

/-
  This file defines everything that keeps a composition from
  being paid, collected in one value.

  Key definitions include:
    * `Issue`
    * `Problems`
    * `Problems.taxonomy`
    * `Problems.message`
-/

namespace Remit

/- A fault of one row, or of the list of rows. -/
structure Issue where
  row : Option Nat
  fault : Fault
deriving DecidableEq, Repr

/- The wording of an issue; rows are counted from one. -/
def Issue.message (i : Issue) : String :=
  match i.row with
  | some row =>
      "recipient " ++ toString (row + 1) ++ " "
        ++ i.fault.field.name ++ ": " ++ i.fault.message
  | none => i.fault.message

/- The issues in order, and the shortfall if there is one. -/
structure Problems where
  issues : List Issue
  shortfall : Option Shortfall
deriving DecidableEq, Repr

namespace Problems

/- Nothing keeps the composition from being paid. -/
def IsEmpty (p : Problems) : Prop :=
  p.issues = [] ∧ p.shortfall = none

instance (p : Problems) : Decidable p.IsEmpty := by
  unfold IsEmpty
  infer_instance

/- The entry of the first problem in the catalogue. -/
def taxonomy (p : Problems) : Taxonomy :=
  match p.issues, p.shortfall with
  | i :: _, _ => i.fault.taxonomy
  | [], some s => s.taxonomy
  | [], none => .noRecipients

/- The wordings of all problems in order. -/
def messages (p : Problems) : List String :=
  p.issues.map Issue.message
    ++ (p.shortfall.map Shortfall.message).toList

/- The wording of all problems together. -/
def message (p : Problems) : String :=
  String.intercalate "; " p.messages

end Problems

end Remit
