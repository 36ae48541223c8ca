import Remit.Command.Program
import Std.Time.DateTime.Timestamp

/-
  This file runs the program: it reads the files that are named,
  shows what a command tells, and asks a person for consent.

  Key definitions include:
    * `main`
-/

namespace Remit.Command

------------------------------------------------------------
-- The Outside World
------------------------------------------------------------

/- The contents of a file, or why it cannot be read. -/
def loadFile (file : String) : IO (Except FileError Bytes) := do
  try
    let contents ← IO.FS.readBinFile file
    return .ok contents.toList
  catch
  | .noFileOrDirectory _ _ _ => return .error .absent
  | e => return .error (.other (toString e))

/- The contents of the files that an order names. -/
def loadFiles (order : Order) : IO Files := do
  let file ← loadFile order.file
  let wallet ← loadFile order.wallet
  return fun name => if name = order.file then file else wallet

/- The nanoseconds of a second. -/
def nanosPerSecond : Nat :=
  1000000000

/- The present time. -/
def presentTime : IO Time := do
  let now ← Std.Time.Timestamp.now
  let nanos := now.toNanosecondsSinceUnixEpoch.val.toNat
  return ⟨(nanos / nanosPerSecond : Nat), nanos % nanosPerSecond⟩

------------------------------------------------------------
-- Carrying a Session Out
------------------------------------------------------------

/- Ask a question at the terminal, if there is one. -/
def askAtTerminal (question : String) : IO Consent := do
  let input ← IO.getStdin
  if ← input.isTty then
    IO.print (question ++ promptEnd)
    (← IO.getStdout).flush
    let typed ← input.getLine
    return if Accepts typed then .given else .declined
  else
    return .blocked

/- Carry a session out for a person. -/
def carryOut (c : Console) :
    Session → IO (Except CommandError Report)
| .ended outcome => return outcome
| .tell event rest => do
    let (c, shown) := c.tell event
    shown.forM IO.println
    carryOut c rest
| .ask question resume => do
    let consent ← askAtTerminal question
    carryOut { c with spinning := false } (resume consent)

/- Put out what a command has come to, for a person. -/
def printOutcome
    (quiet : Bool)
    (outcome : Except CommandError Report) : IO Unit := do
  let printed := Console.finish quiet outcome
  printed.output.forM IO.println
  printed.errors.forM IO.eprintln

/- Put out how the program ended. -/
def printEnding (e : Ending) : IO UInt32 := do
  IO.print e.output
  IO.eprint e.errors
  return e.exit.toUInt32

/- Run the program for its arguments. -/
def runAtTerminal (args : List String) : IO UInt32 := do
  let terminal ← (← IO.getStdout).isTty
  match Invocation.ofArguments args with
  | .error stop => printEnding (stop.ending args terminal)
  | .ok i =>
      let s := i.session (← loadFiles i.order) (← presentTime)
      match Mode.ofInvocation i terminal with
      | .agent => printEnding (Ending.ofAgent i.operation s)
      | .operator =>
          let quiet := decide (i.Has .quiet)
          let outcome ← carryOut (Console.start quiet) s
          printOutcome quiet outcome
          return (exitCode outcome).toUInt32

end Remit.Command

/- The program. -/
def main (args : List String) : IO UInt32 :=
  Remit.Command.runAtTerminal args
