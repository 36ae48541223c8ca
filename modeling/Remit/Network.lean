import Remit.Text.Blank
import Remit.Text.Search

/-
  This file defines the networks that a payment can be made on.

  Key definitions include:
    * `Network`
    * `Network.lead`
    * `Network.ofText`
-/

namespace Remit

/- The networks, each with addresses of its own. -/
inductive Network where
| mainnet
| testnet
| regtest
deriving DecidableEq, Repr, Inhabited

namespace Network

/- Every network. -/
def all : List Network :=
  [mainnet, testnet, regtest]

/- The name of a network. -/
def name : Network → String
| mainnet => "mainnet"
| testnet => "testnet"
| regtest => "regtest"

/- What stands before the digit one in the network's addresses. -/
def lead : Network → String
| mainnet => "zs"
| testnet => "ztestsapling"
| regtest => "zregtestsapling"

/-
  The network that a text names, blanks and letter case aside.
  A text that names none is given back as it was understood.
-/
def ofText (s : String) : Except String Network :=
  match Text.lower (Text.trim s) with
  | "mainnet" => .ok mainnet
  | "main" => .ok mainnet
  | "testnet" => .ok testnet
  | "test" => .ok testnet
  | "regtest" => .ok regtest
  | other => .error other

/- The wording for a text that names no network. -/
def unknownMessage (s : String) : String :=
  s!"unknown network '{s}'"

/- No network is left out. -/
theorem mem_all
    (n : Network) :
    n ∈ all := by
  cases n <;> decide

end Network

end Remit
