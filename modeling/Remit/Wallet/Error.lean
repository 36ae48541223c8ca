import Remit.Network
import Remit.Taxonomy

/-
  This file defines why a file with the state of a wallet is
  refused.

  Key definitions include:
    * `WalletError`
    * `WalletError.notice`
-/

namespace Remit

/- Why a wallet file is refused. -/
inductive WalletError where
| tooLarge (file : String) (size : Nat) (most : Nat)
| otherNetwork (found : Network) (expected : Network)
deriving DecidableEq, Repr

namespace WalletError

/- The wording of a wallet file failure. -/
def message : WalletError → String
| tooLarge file size most =>
    s!"wallet snapshot '{file}' is {size} bytes, limit is {most}"
| otherNetwork found expected =>
    "wallet snapshot is for " ++ found.name
      ++ " but --network is " ++ expected.name

/- The notice of a wallet file failure. -/
def notice (e : WalletError) : Notice :=
  ⟨.invalidConfig, e.message⟩

end WalletError

end Remit
