import Remit.Command.Report

/-
  This file defines the course of a command: what it tells while
  it works, the consent that it may ask for, and what it comes
  to.

  Key definitions include:
    * `Command.Session`
    * `Command.Session.trace`
    * `Command.check`
    * `Command.validate`
    * `Command.review`
    * `Command.perform`
-/

namespace Remit.Command

------------------------------------------------------------
-- Sessions
------------------------------------------------------------

/- What a command tells while it works. -/
inductive Event where
| progress (text : String)
| summary (s : Summary)
deriving DecidableEq, Repr

/- The answer to a question, or why there is none. -/
inductive Consent where
| given
| declined
| blocked
| broken (detail : String)
deriving DecidableEq, Repr

/- A command that has ended, that tells something, or that asks. -/
inductive Session where
| ended (outcome : Except CommandError Report)
| tell (event : Event) (rest : Session)
| ask (question : String) (resume : Consent → Session)

/- What was told or asked in the course of a command. -/
inductive Note where
| told (event : Event)
| asked (question : String)
deriving DecidableEq, Repr

namespace Session

/-
  Everything told and asked, with the same answer to every
  question, and what the command came to.
-/
def trace (answer : Consent) :
    Session → List Note × Except CommandError Report
| ended outcome => ([], outcome)
| tell event rest =>
    let (notes, outcome) := rest.trace answer
    (.told event :: notes, outcome)
| ask question resume =>
    let (notes, outcome) := (resume answer).trace answer
    (.asked question :: notes, outcome)

/- What a command comes to. -/
def outcome (answer : Consent) (s : Session) :
    Except CommandError Report :=
  (s.trace answer).2

/- The end of a command that fails. -/
def failed (e : CommandError) : Session :=
  ended (.error e)

end Session

------------------------------------------------------------
-- Commands
------------------------------------------------------------

/- Show the totals, and go on if the composition can be paid. -/
def check (c : Composition) (rest : Session) : Session :=
  .tell (.summary (Summary.ofComposition c))
    (match c.validate with
    | .ok _ => rest
    | .error problems => .failed (.send (.problems problems)))

/- What a composed payment is reported as. -/
def report (f : Flow) (draft : Option Draft) : Report where
  composition := f.composition
  stage := f.stage
  draft := draft

/- Check the payment that is ordered. -/
def validate (files : Files) (now : Time) (order : Order) : Session :=
  match compose files now order with
  | .error cause => .failed (.send cause)
  | .ok composed =>
      .tell (.progress "validating recipients")
        (check composed.flow.composition
          (.ended (.ok (report composed.flow none))))

/- Build the draft of a composed payment. -/
def build (now : Time) (composed : Composed) :
    Except CommandError Report :=
  match carry composed.wallet now composed.flow .review with
  | .error cause => .error (.send cause)
  | .ok f =>
      match f.draft with
      | none => .error (.send (.stage .noDraft))
      | some draft => .ok (report f (some draft))

/- Build the draft, telling so. -/
def buildSession (now : Time) (composed : Composed) : Session :=
  .tell (.progress "building transaction")
    (.ended (build now composed))

/- Go on if consent is given. -/
def consented (rest : Session) : Consent → Session
| .given => rest
| .declined => .failed .confirmationRequired
| .blocked => .failed .inputBlocked
| .broken detail => .failed (.internal detail)

/- Ask for consent, unless it is not needed. -/
def confirmed (force : Bool) (rest : Session) : Session :=
  if force then
    rest
  else
    .ask "Build this transaction?" (consented rest)

/- Check the payment that is ordered, and build its draft. -/
def review
    (files : Files)
    (now : Time)
    (force : Bool)
    (order : Order) : Session :=
  match compose files now order with
  | .error cause => .failed (.send cause)
  | .ok composed =>
      check composed.flow.composition
        (confirmed force (buildSession now composed))

/- Perform an operation. -/
def perform
    (files : Files)
    (now : Time)
    (force : Bool)
    (order : Order) : Operation → Session
| .validate => validate files now order
| .review => review files now force order

end Remit.Command
