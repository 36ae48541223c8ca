import Remit.Command.Order

/-
  This file reads the arguments of the command line. There are
  two levels, the program's own and the operation's, and each
  counts what it was given by itself. The value of an option is
  looked at only when the next argument of its level comes, or
  at the end of the level; so a fault that comes later may be
  reported first.

  Key definitions include:
    * `Command.Refusal`
    * `Command.Stop`
    * `Command.Shape`
    * `Command.Level`
    * `Command.Level.settle`
    * `Command.Level.read`
    * `Command.Invocation`
    * `Command.Invocation.ofArguments`
    * `Command.Mode`
-/

namespace Remit.Command

------------------------------------------------------------
-- Refusals
------------------------------------------------------------

/- Why arguments are refused. -/
inductive Refusal where
| noOperation
| unknownOperation
| missingArgument
| unknownArgument
| repeated
| missingValue
| badValue
| needlessValue
deriving DecidableEq, Repr

/- The entry of a refusal in the catalogue. -/
def Refusal.taxonomy : Refusal → Taxonomy
| noOperation => .missingArgument
| unknownOperation => .missingArgument
| missingArgument => .missingArgument
| _ => .flagCombination

/- Why reading ends early: help, the version, or a refusal. -/
inductive Stop where
| help
| version
| refused (cause : Refusal)
deriving DecidableEq, Repr

------------------------------------------------------------
-- The Parts of an Argument
------------------------------------------------------------

/- What is on when it is given. -/
inductive Switch where
| interactive
| force
| quiet
| noColor
deriving DecidableEq, Repr

/- Every switch. -/
def Switch.all : List Switch :=
  [interactive, force, quiet, noColor]

/- The name of a switch. -/
def Switch.name : Switch → String
| interactive => "interactive"
| force => "force"
| quiet => "quiet"
| noColor => "no-color"

/- What is given a value; the file is given without a name. -/
inductive Slot where
| output
| wallet
| network
| scope
| fee
| file
deriving DecidableEq, Repr

/- Every slot that has a name. -/
def Slot.options : List Slot :=
  [output, wallet, network, scope, fee]

/- The name of a slot. -/
def Slot.name : Slot → String
| output => "output"
| wallet => "wallet"
| network => "network"
| scope => "scope"
| fee => "fee"
| file => "file"

/- A slot takes a value; that of a file must not be empty. -/
def Slot.Takes : Slot → String → Prop
| output, value => value = "json"
| wallet, value => value ≠ ""
| file, value => value ≠ ""
| _, _ => True

instance (slot : Slot) (value : String) : Decidable (slot.Takes value) := by
  cases slot <;> unfold Slot.Takes <;> infer_instance

/- The forms that an argument can have. -/
inductive Shape where
| word
| escape
| long (name : String) (value : Option String)
| short (letters : List Char)
deriving DecidableEq, Repr

/- A name, and the value behind an equals sign. -/
def Shape.ofLong (cs : List Char) : Shape :=
  let name := String.ofList (cs.takeWhile (· != '='))
  match cs.dropWhile (· != '=') with
  | [] => long name none
  | _ :: value => long name (some (String.ofList value))

/- The form of an argument. A lone hyphen is a word. -/
def Shape.ofText (arg : String) : Shape :=
  match arg.toList with
  | ['-', '-'] => escape
  | '-' :: '-' :: cs => ofLong cs
  | ['-'] => word
  | '-' :: cs => short cs
  | _ => word

------------------------------------------------------------
-- Levels
------------------------------------------------------------

/- The level of the program, and that of an operation. -/
inductive Depth where
| program
| operation
deriving DecidableEq, Repr

/-
  What a level was given: its switches; its values; the slot
  whose value is not settled, with the value if it came; and
  whether names count no longer.
-/
structure Level where
  depth : Depth
  switches : List Switch
  values : List (Slot × String)
  pending : Option (Slot × Option String)
  trailing : Bool
deriving DecidableEq, Repr

namespace Level

/- A level that was given nothing. -/
def start (depth : Depth) : Level where
  depth := depth
  switches := []
  values := []
  pending := none
  trailing := false

/- The value given for a slot. -/
def value? (l : Level) (slot : Slot) : Option String :=
  l.values.lookup slot

/- An option waits for its value. -/
def Awaits (l : Level) : Prop :=
  ∃ entry ∈ l.pending, entry.2 = none

instance (l : Level) : Decidable l.Awaits :=
  match h : l.pending with
  | none => isFalse (by simp [Awaits, h])
  | some (_, none) => isTrue (by simp [Awaits, h])
  | some (_, some _) => isFalse (by simp [Awaits, h])

/- Words are looked up among the operations. -/
def SeeksOperation (l : Level) : Prop :=
  l.depth = .program ∧ l.trailing = false ∧ ¬ l.Awaits

instance (l : Level) : Decidable l.SeeksOperation := by
  unfold SeeksOperation
  infer_instance

/- Put a value into a slot, which must be empty. -/
def put (l : Level) (slot : Slot) (value : String) :
    Except Stop Level :=
  if (l.value? slot).isSome then
    .error (.refused .repeated)
  else if slot.Takes value then
    .ok { l with values := (slot, value) :: l.values }
  else
    .error (.refused .badValue)

/- Settle the slot that is pending. -/
def settle (l : Level) : Except Stop Level :=
  match l.pending with
  | none => .ok l
  | some (_, none) => .error (.refused .missingValue)
  | some (slot, some value) => { l with pending := none }.put slot value

/- Turn a switch on, which must not be on. -/
def turnOn (l : Level) (s : Switch) : Except Stop Level := do
  let l ← l.settle
  if s ∈ l.switches then
    .error (.refused .repeated)
  else
    .ok { l with switches := s :: l.switches }

/- Show help or the version, once all before is settled. -/
def show? (l : Level) (stop : Stop) : Except Stop Level := do
  let _ ← l.settle
  .error stop

/- The slots that can be named at a level. -/
def slots (l : Level) : List Slot :=
  match l.depth with
  | .program => [.output]
  | .operation => Slot.options

------------------------------------------------------------
-- Single Arguments
------------------------------------------------------------

/- Read a named option, with its value if it came along. -/
def readOption (l : Level) (slot : Slot) (value : Option String) :
    Except Stop Level := do
  let l ← l.settle
  match value with
  | some value => l.put slot value
  | none => .ok { l with pending := some (slot, none) }

/- Read a name that takes no value. -/
def readBare (l : Level) (name : String) : Except Stop Level :=
  if name = "help" then
    l.show? .help
  else if name = "version" ∧ l.depth = .program then
    l.show? .version
  else
    match Switch.all.find? (fun s => s.name == name) with
    | some s => l.turnOn s
    | none => .error (.refused .unknownArgument)

/- The name is that of something without a value. -/
def IsBare (l : Level) (name : String) : Prop :=
  name = "help" ∨ (name = "version" ∧ l.depth = .program)
    ∨ name ∈ Switch.all.map Switch.name

instance (l : Level) (name : String) : Decidable (l.IsBare name) := by
  unfold IsBare
  infer_instance

/- Read a name, with the value behind its equals sign. -/
def readLong (l : Level) (name : String) (value : Option String) :
    Except Stop Level :=
  match l.slots.find? (fun slot => slot.name == name) with
  | some slot => l.readOption slot value
  | none =>
      if value.isSome ∧ l.IsBare name then
        .error (.refused .needlessValue)
      else if value.isSome then
        .error (.refused .unknownArgument)
      else
        l.readBare name

/- Read letters behind one hyphen; the first one decides. -/
def readShort (l : Level) (letters : List Char) : Except Stop Level :=
  match letters.head?, l.depth with
  | some 'h', _ => l.show? .help
  | some 'V', .program => l.show? .version
  | _, _ => .error (.refused .unknownArgument)

/- Read a word that is no value: at most one, the file. -/
def readWord (l : Level) (word : String) : Except Stop Level :=
  match l.depth with
  | .program =>
      if l.trailing ∧ (word = "help" ∨ (Operation.ofName? word).isSome) then
        .error (.refused .unknownArgument)
      else
        .error (.refused .unknownOperation)
  | .operation =>
      match l.pending, l.value? .file with
      | some (.file, _), _ => .error (.refused .unknownArgument)
      | _, some _ => .error (.refused .unknownArgument)
      | _, none => do
          let l ← l.settle
          .ok { l with pending := some (.file, some word) }

/- Read a word, which an option that waits takes as its value. -/
def readValue (l : Level) (word : String) : Except Stop Level :=
  match l.pending with
  | some (slot, none) =>
      .ok { l with pending := some (slot, some word) }
  | _ => l.readWord word

/- Read one argument. -/
def read (l : Level) (arg : String) : Except Stop Level :=
  if l.trailing then
    l.readWord arg
  else
    match Shape.ofText arg with
    | .word => l.readValue arg
    | .escape => .ok { l with trailing := true }
    | .long name value => l.readLong name value
    | .short letters => l.readShort letters

end Level

------------------------------------------------------------
-- Invocations
------------------------------------------------------------

/- What the program is asked to do. -/
structure Invocation where
  operation : Operation
  order : Order
  switches : List Switch
  json : Bool
deriving DecidableEq, Repr

namespace Invocation

/- Read the arguments of an operation; the wallet and file must be there. -/
def readOperation (l : Level) : List String → Except Stop Level
| [] => do
    let l ← l.settle
    if (l.value? .wallet).isSome ∧ (l.value? .file).isSome then
      .ok l
    else
      .error (.refused .missingArgument)
| arg :: args => do
    let l ← l.read arg
    readOperation l args

/- What is shown when help is asked for as an operation. -/
def helpFor : List String → Stop
| [] => .help
| [word] =>
    if word = "help" ∨ (Operation.ofName? word).isSome then
      .help
    else
      .refused .unknownOperation
| _ => .refused .unknownOperation

/- The order that the values of an operation make. -/
def orderOf (l : Level) : Order where
  file := (l.value? .file).getD ""
  wallet := (l.value? .wallet).getD ""
  network := (l.value? .network).getD Network.mainnet.name
  scope := (l.value? .scope).getD Scope.auto.text
  fee := (l.value? .fee).getD FeePreset.standard.name

/- What both levels ask for together. -/
def ofLevels
    (operation : Operation)
    (program : Level)
    (inner : Level) : Invocation where
  operation := operation
  order := orderOf inner
  switches := program.switches ++ inner.switches
  json := (program.value? .output).isSome ∨ (inner.value? .output).isSome

/- Read an operation with its arguments, then settle the program. -/
def readInner
    (operation : Operation)
    (l : Level)
    (args : List String) : Except Stop Invocation := do
  let inner ← readOperation (Level.start .operation) args
  let program ← l.settle
  return ofLevels operation program inner

/- Read the arguments of the program. -/
def readProgram (l : Level) : List String → Except Stop Invocation
| [] => do
    let _ ← l.settle
    .error (.refused .noOperation)
| arg :: args =>
    if l.SeeksOperation ∧ arg = "help" then
      .error (helpFor args)
    else
      match (Operation.ofName? arg).filter (fun _ => l.SeeksOperation) with
      | some operation => readInner operation l args
      | none => do
          let l ← l.read arg
          readProgram l args

/- Read all arguments. -/
def ofArguments (args : List String) : Except Stop Invocation :=
  readProgram (Level.start .program) args

/- A switch is on. -/
def Has (i : Invocation) (s : Switch) : Prop :=
  s ∈ i.switches

instance (i : Invocation) (s : Switch) : Decidable (i.Has s) := by
  unfold Has
  infer_instance

end Invocation

------------------------------------------------------------
-- Modes
------------------------------------------------------------

/- Who reads the output. -/
inductive Mode where
| operator
| agent
deriving DecidableEq, Repr

namespace Mode

/-
  A program reads it if JSON is asked for; otherwise a person
  does if that is asked for or the output is a terminal.
-/
def choose (json : Bool) (interactive : Bool) (terminal : Bool) : Mode :=
  if json then
    agent
  else if interactive || terminal then
    operator
  else
    agent

/- The mode of an invocation. -/
def ofInvocation (i : Invocation) (terminal : Bool) : Mode :=
  choose i.json (i.Has .interactive) terminal

/- JSON is asked for somewhere among arguments. -/
def asksJson : List String → Bool
| "--output" :: value :: args => Text.lower value = "json" || asksJson args
| arg :: args => Text.lower arg = "--output=json" || asksJson args
| [] => false

/- A person is named somewhere among arguments, not as a value. -/
def asksInteractive : List String → Bool
| "--output" :: _ :: args => asksInteractive args
| arg :: args => arg = "--interactive" || asksInteractive args
| [] => false

/- The mode for arguments that cannot be read. -/
def guess (args : List String) (terminal : Bool) : Mode :=
  choose (asksJson args) (asksInteractive args) terminal

end Mode

/- The operation that unreadable arguments seem to ask for. -/
def Operation.guess (args : List String) : Operation :=
  (args.findSome? Operation.ofName?).getD validate

end Remit.Command
