import Remit.Command.Files
import Remit.Flow.Basic
import Remit.Import.Json
import Remit.Wallet.Offline

/-
  This file defines what is ordered on the command line, how its
  values are read, and the composition it leads to.

  Key definitions include:
    * `Command.Operation`
    * `Command.Order`
    * `Command.readNetwork`
    * `Command.FeeChoice.ofText`
    * `Command.Files.read`
    * `Command.readRows`
    * `Command.compose`
-/

namespace Remit.Command

------------------------------------------------------------
-- Orders
------------------------------------------------------------

/- What is done with the recipients of a file. -/
inductive Operation where
| validate
| review
deriving DecidableEq, Repr

/- The name of an operation. -/
def Operation.name : Operation → String
| validate => "validate"
| review => "review"

/- Every operation. -/
def Operation.all : List Operation :=
  [validate, review]

/- The operation of a name. -/
def Operation.ofName? (name : String) : Option Operation :=
  Operation.all.find? (fun o => o.name == name)

/- The values of an order as they were given. -/
structure Order where
  file : String
  wallet : String
  network : String
  scope : String
  fee : String
deriving DecidableEq, Repr

------------------------------------------------------------
-- Reading the Values
------------------------------------------------------------

/- The network that a value names. -/
def readNetwork (s : String) : Except SendError Network :=
  match Network.ofText s with
  | .ok n => .ok n
  | .error _ => .error (.flag (.network (Text.trim s)))

/- The fee that is asked for. -/
inductive FeeChoice where
| preset (p : FeePreset)
| custom (fee : Amount)
deriving DecidableEq, Repr

namespace FeeChoice

/- The fee that a value names; custom fees are given as amounts. -/
def ofText (s : String) : Except SendError FeeChoice :=
  match FeePreset.ofText s with
  | .ok .custom => .error (.flag .customFee)
  | .ok p => .ok (preset p)
  | .error _ =>
      match Amount.ofText s with
      | .ok fee => .ok (custom fee)
      | .error cause => .error (.flag (.fee (Text.trim s) cause))

/- The entry that a choice amounts to. -/
def entry : FeeChoice → Entry
| preset p => .preset p
| custom fee => .customFee fee

end FeeChoice

------------------------------------------------------------
-- Reading the Files
------------------------------------------------------------

/- The contents of a file, which must be readable. -/
def Files.read (files : Files) (file : String) :
    Except SendError Bytes :=
  (files file).mapError (fun e => .file e.message)

/- The rows that a file holds, by the kind of file. -/
def readRows (files : Files) (file : String) :
    Except SendError (List ImportRow) := do
  let contents ← files.read file
  match extension file with
  | "csv" => (Import.ofCsv file contents).mapError .imported
  | "json" => (Import.ofJson file contents).mapError .imported
  | _ => .error (.flag (.fileKind file))

------------------------------------------------------------
-- Composing
------------------------------------------------------------

/- Let a wallet carry an action out; a refusal is a failure. -/
def carry (w : Wallet) (now : Time) (f : Flow) (a : Action) :
    Except SendError Flow :=
  match (f.perform a).run (w.engine now) () with
  | (_, .refused cause, _) => .error cause
  | (g, _, _) => .ok g

/- Choose the funds that may be spent; they must be in the wallet. -/
def applyScope (w : Wallet) (now : Time) (f : Flow) (scope : Scope) :
    Except SendError Flow :=
  if scope = .auto then
    .ok f
  else do
    let g ← carry w now f (.change (.scope scope))
    if g.composition.scope = scope then
      .ok g
    else
      .error (.flag (.scopeWithoutFunds scope.text))

/- The flow at its start, with what the wallet holds. -/
def opened (w : Wallet) (now : Time) (config : Config) :
    Except SendError Flow := do
  let f ← carry w now (Flow.new config) .start
  let f ← carry w now f .refreshBounds
  carry w now f .refreshBalances

/- A payment that is composed, and the wallet that is to pay it. -/
structure Composed where
  wallet : Wallet
  flow : Flow
deriving DecidableEq, Repr

/-
  Compose the payment that is ordered. The values are read first,
  then the file, then the wallet.
-/
def compose (files : Files) (now : Time) (order : Order) :
    Except SendError Composed := do
  let network ← readNetwork order.network
  let scope ← (Scope.ofText order.scope).mapError .scope
  let fee ← FeeChoice.ofText order.fee
  let rows ← readRows files order.file
  let contents ← files.read order.wallet
  let wallet ← Wallet.load order.wallet contents network
  let config := Config.ofNetwork network
  config.check.mapError .config
  let f ← opened wallet now config
  let f ← applyScope wallet now f scope
  let f ← carry wallet now f (.change (.enter fee.entry))
  let f ← carry wallet now f (.change (.enter (.load rows)))
  return ⟨wallet, f⟩

end Remit.Command
