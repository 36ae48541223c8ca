import Remit.Json.Value
import Remit.SendError

/-
  This file defines why a command does not succeed, what is
  reported then, and the number that the program ends with.

  Key definitions include:
    * `Command.CommandError`
    * `Command.Exit`
    * `Command.CommandError.exit`
    * `Command.Failure`
    * `Command.CommandError.failure`
    * `Command.Failure.lines`
    * `Command.Failure.toValue`
-/

namespace Remit.Command

open Json

------------------------------------------------------------
-- Errors
------------------------------------------------------------

/- Why a command does not succeed. -/
inductive CommandError where
| send (cause : SendError)
| confirmationRequired
| inputBlocked
| internal (detail : String)
deriving DecidableEq, Repr

------------------------------------------------------------
-- Exits
------------------------------------------------------------

/- The ways in which the program ends. -/
inductive Exit where
| success
| invalid
| misused
| unreadable
| internal
| unconfirmed
| blocked
deriving DecidableEq, Repr

/- The number that the program ends with. -/
def Exit.code : Exit → Nat
| success => 0
| invalid => 1
| misused => 2
| unreadable => 3
| internal => 4
| unconfirmed => 10
| blocked => 11

/- The exit for an entry of the catalogue. -/
def Exit.ofTaxonomy (t : Taxonomy) : Exit :=
  if (1001 ≤ t.code ∧ t.code ≤ 1013)
      ∨ (3001 ≤ t.code ∧ t.code ≤ 3002) then
    invalid
  else if 2001 ≤ t.code ∧ t.code ≤ 2005 then
    misused
  else
    internal

/- The exit for a failure to send. -/
def Exit.ofSendError : SendError → Exit
| .file _ => unreadable
| .json => unreadable
| other => ofTaxonomy other.taxonomy

/- The exit for an error. -/
def CommandError.exit : CommandError → Exit
| send cause => Exit.ofSendError cause
| confirmationRequired => .unconfirmed
| inputBlocked => .blocked
| internal _ => .internal

------------------------------------------------------------
-- Failures
------------------------------------------------------------

/-
  What is reported of an error: a headline, and the problems of
  the composition or a hint, if there are any.
-/
structure Failure where
  taxonomy : Taxonomy
  message : String
  issues : List Issue
  shortfall : Option Shortfall
  hint : Option String
deriving DecidableEq, Repr

namespace Failure

/- A headline and nothing else. -/
def headline (taxonomy : Taxonomy) (message : String) : Failure where
  taxonomy := taxonomy
  message := message
  issues := []
  shortfall := none
  hint := none

/- The wording of the first problem. -/
def firstMessage (p : Problems) : String :=
  p.messages.headD "composition is invalid"

/- What is reported of the problems of a composition. -/
def ofProblems (p : Problems) : Failure where
  taxonomy := p.taxonomy
  message := firstMessage p
  issues := p.issues
  shortfall := p.shortfall
  hint := none

/- What is reported of a failure to send. -/
def ofSendError : SendError → Failure
| .problems p => ofProblems p
| other => headline other.taxonomy other.userMessage

end Failure

/- What is reported of an error. -/
def CommandError.failure : CommandError → Failure
| send cause => Failure.ofSendError cause
| confirmationRequired =>
    { Failure.headline .confirmationRequired "confirmation required" with
      hint := some
        "Re-run with --force for non-interactive execution." }
| inputBlocked =>
    { Failure.headline .stdinBlocked
        "stdin is blocked for confirmation" with
      hint := some "Use --force or run in an interactive terminal." }
| internal detail =>
    Failure.headline .engineUnknown ("internal error: " ++ detail)

------------------------------------------------------------
-- Lines for a Person
------------------------------------------------------------

namespace Failure

/- What to do about a fault. -/
def fieldHint : Field → String
| .address => "check the address encoding and the selected --network"
| .amount => "use a positive decimal with at most 8 fractional digits"
| .memo => "keep memos to 512 bytes of printable text"
| .recipients =>
    "a payment needs between 1 and 50 recipients within the supply"

/- What to do about a shortfall. -/
def shortfallHint (s : Shortfall) : String :=
  if s.HasPending then
    "wait for pending funds to confirm, or lower the amounts"
  else
    "lower the amounts or choose a --scope with more funds"

/- A message, and on a line of its own what to do about it. -/
def withHint (message : String) (hint : String) : String :=
  message ++ "\n  hint: " ++ hint

/- The place of an issue, with rows counted from one. -/
def place (i : Issue) : String :=
  match i.row with
  | some row => "row " ++ toString (row + 1) ++ " " ++ i.fault.field.name
  | none => "recipients"

/- The lines about an issue. -/
def issueLine (i : Issue) : String :=
  withHint (place i ++ ": " ++ i.fault.message)
    (fieldHint i.fault.field)

/- The lines about a shortfall. -/
def shortfallLine (s : Shortfall) : String :=
  withHint s.message (shortfallHint s)

/- What is said about each problem after the headline. -/
def lines (f : Failure) : List String :=
  f.issues.map issueLine
    ++ (f.shortfall.map shortfallLine).toList
    ++ (f.hint.map (fun hint => "hint: " ++ hint)).toList

------------------------------------------------------------
-- Values for a Program
------------------------------------------------------------

/- The fields that name an entry of the catalogue. -/
def taxonomyFields (t : Taxonomy) : List (String × Value) :=
  [("code", .natural t.code), ("name", .text t.name)]

/- An issue as a program reads it, with rows counted from one. -/
def issueValue (i : Issue) : Value :=
  .record
    ([("recipient", Value.nullable (fun row => .natural (row + 1)) i.row),
      ("field", .text i.fault.field.name),
      ("message", .text i.fault.message)]
      ++ taxonomyFields i.fault.taxonomy)

/- A shortfall as a program reads it. -/
def shortfallValue (s : Shortfall) : Value :=
  .record
    ([("message", .text s.message),
      ("required", .text s.required.fixedText),
      ("spendable", .text s.spendable.fixedText),
      ("pending", .text s.pending.fixedText),
      ("shortfall", .text s.missing.fixedText),
      ("pendingConfirmation", .bool (decide s.HasPending))]
      ++ taxonomyFields s.taxonomy)

/- The issues, unless there are none. -/
def issueFields (f : Failure) : List (String × Value) :=
  if f.issues = [] then
    []
  else
    [("issues", Value.ofList issueValue f.issues)]

/- A failure as a program reads it; what it has not is left out. -/
def toValue (f : Failure) : Value :=
  .record
    (taxonomyFields f.taxonomy
      ++ [("message", .text f.message)]
      ++ f.issueFields
      ++ (f.shortfall.map
          (fun s => ("funds", shortfallValue s))).toList
      ++ (f.hint.map (fun hint => ("hint", Value.text hint))).toList)

end Failure

end Remit.Command
