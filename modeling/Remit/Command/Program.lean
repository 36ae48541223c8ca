import Remit.Command.Arguments
import Remit.Command.Operator

/-
  This file defines the whole program, from its arguments to
  what it puts out and the number that it ends with, when nobody
  is there to answer a question.

  Key definitions include:
    * `Command.Ending`
    * `Command.absent`
    * `Command.Ending.ofSession`
    * `Command.refuse`
    * `Command.run`
-/

namespace Remit.Command

/- What was put out, and the number that the program ends with. -/
structure Ending where
  exit : Nat
  output : String
  errors : String
deriving DecidableEq, Repr

/- Lines, each of them ended. -/
def endedLines (ls : List String) : String :=
  String.join (ls.map (fun line => line ++ "\n"))

/- The answer to a question when nobody is there. -/
def absent : Mode → Consent
| .operator => .blocked
| .agent => .declined

/- How the program ends once a command has ended. -/
def exitCode : Except CommandError Report → Nat
| .ok _ => Exit.success.code
| .error e => e.exit.code

------------------------------------------------------------
-- Commands
------------------------------------------------------------

namespace Ending

/- A command whose output a program reads: one document. -/
def ofAgent (o : Operation) (s : Session) : Ending :=
  let (_, outcome) := s.trace (absent .agent)
  { exit := exitCode outcome
    output := endedLines [(document o outcome).pretty]
    errors := "" }

/- A command whose output a person reads. -/
def ofOperator (quiet : Bool) (s : Session) : Ending :=
  let (notes, outcome) := s.trace (absent .operator)
  let printed := Console.finish quiet outcome
  { exit := exitCode outcome
    output :=
      endedLines
        ((Console.start quiet).narrate notes ++ printed.output)
    errors := endedLines printed.errors }

/- A command in the mode of its invocation. -/
def ofSession (i : Invocation) (mode : Mode) (s : Session) : Ending :=
  match mode with
  | .agent => ofAgent i.operation s
  | .operator => ofOperator (i.Has .quiet) s

end Ending

/- The session that is asked for. -/
def Invocation.session (i : Invocation) (files : Files) (now : Time) :
    Session :=
  perform files now (i.Has .force) i.order i.operation

------------------------------------------------------------
-- Arguments That Cannot Be Read
------------------------------------------------------------

/- The error that refused arguments amount to. -/
def Refusal.toError (r : Refusal) : CommandError :=
  .send (.listed ⟨r.taxonomy, libraryMark⟩)

/- How to use the program. -/
def usage : List String :=
  ["Compose, validate and review multi-recipient shielded payments",
   "",
   "Usage: sendflow [OPTIONS] <validate|review> <FILE> --wallet <WALLET>",
   "",
   "Options:",
   "  --network <NETWORK>  mainnet, testnet or regtest",
   "  --scope <SCOPE>      auto, key:<id> or addresses:<id>,<id>,...",
   "  --fee <FEE>          low, standard, high or an amount",
   "  --output json        write one document for a program to read",
   "  --interactive        write tables for a person to read",
   "  --force              build without asking",
   "  --quiet              write headlines and problems only",
   "  --no-color           write without colors"]

/- How the program ends when its arguments are refused. -/
def refuse (r : Refusal) (args : List String) (terminal : Bool) :
    Ending :=
  let e := r.toError
  match Mode.guess args terminal with
  | .agent =>
      { exit := e.exit.code
        output :=
          endedLines
            [(document (Operation.guess args) (.error e)).pretty]
        errors := "" }
  | .operator =>
      { exit := e.exit.code
        output := ""
        errors := endedLines ["error: " ++ libraryMark] }

/- How the program ends when reading its arguments stops early. -/
def Stop.ending (args : List String) (terminal : Bool) : Stop → Ending
| .help => ⟨Exit.success.code, endedLines usage, ""⟩
| .version =>
    ⟨Exit.success.code, endedLines ["sendflow " ++ Command.version], ""⟩
| .refused cause => refuse cause args terminal

------------------------------------------------------------
-- The Program
------------------------------------------------------------

/- Everything that the program does for its arguments. -/
def run (files : Files) (now : Time) (args : List String) : Ending :=
  match Invocation.ofArguments args with
  | .error stop => stop.ending args false
  | .ok i =>
      Ending.ofSession i (Mode.ofInvocation i false)
        (i.session files now)

end Remit.Command
