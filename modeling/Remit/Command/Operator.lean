import Remit.Command.Session

/-
  This file writes the course of a command for a person: tables
  on the output, problems on the error output.

  Key definitions include:
    * `Command.Console`
    * `Command.Console.tell`
    * `Command.Printed`
    * `Command.Console.finish`
    * `Command.Accepts`
-/

namespace Remit.Command

/-
  What has been shown so far matters in two ways: nothing but
  headlines and problems is shown quietly, and progress stays
  hidden behind a spinner that the first table stops.
-/
structure Console where
  quiet : Bool
  spinning : Bool
deriving DecidableEq, Repr

/- Lines for the output and for the error output. -/
structure Printed where
  output : List String
  errors : List String
deriving DecidableEq, Repr

namespace Console

/- The console at the start of a command. -/
def start (quiet : Bool) : Console where
  quiet := quiet
  spinning := ¬ quiet

/- Show an event, with the lines that are put out. -/
def tell (c : Console) (e : Event) : Console × List String :=
  if c.quiet then
    (c, [])
  else
    match e with
    | .progress text =>
        if c.spinning then (c, []) else (c, [text])
    | .summary s => ({ c with spinning := false }, [s.table.render])

/- The lines that the course of a command puts out. -/
def narrate : Console → List Note → List String
| _, [] => []
| c, .told event :: notes =>
    let (next, shown) := c.tell event
    shown ++ narrate next notes
| c, .asked _ :: notes => narrate c notes

/- The tables that follow the headline of a report. -/
def tables (r : Report) : List String :=
  let ls := recipientLines r.composition
  (if ls = [] then [] else [(recipientTable ls).render])
    ++ (r.draft.map (fun d => (draftTable d).render)).toList

/- The line about a warning. -/
def warningLine (w : Warning) : String :=
  w.code ++ ": " ++ w.message

/- The headline of a failure. -/
def headline (f : Failure) : String :=
  "[" ++ f.taxonomy.name ++ "] " ++ f.message

/- The lines at the end of a command. -/
def finish (quiet : Bool) : Except CommandError Report → Printed
| .ok r =>
    { output := r.message :: (if quiet then [] else tables r)
      errors := r.composition.outcome.warnings.map warningLine }
| .error e =>
    { output := []
      errors := headline e.failure :: e.failure.lines }

end Console

/- What follows a question. -/
def promptEnd : String :=
  " [y/N]: "

/- A person who types this agrees. -/
def Accepts (typed : String) : Prop :=
  Text.lower (Text.trim typed) ∈ ["y", "yes"]

instance (typed : String) : Decidable (Accepts typed) := by
  unfold Accepts
  infer_instance

end Remit.Command
