import Remit.Amount.Basic

/-
  This file defines why the values given on the command line are
  refused, beyond their place there.

  Key definitions include:
    * `FlagError`
    * `FlagError.notice`
-/

namespace Remit

/- Why a value is refused. -/
inductive FlagError where
| network (text : String)
| customFee
| fee (text : String) (cause : AmountError)
| fileKind (file : String)
| scopeWithoutFunds (scope : String)
deriving DecidableEq, Repr

namespace FlagError

/- The wording of a refused value. -/
def message : FlagError → String
| network text =>
    s!"unsupported network '{text}', expected mainnet, testnet or "
      ++ "regtest"
| customFee => "--fee custom needs an amount, e.g. --fee 0.0002"
| fee text cause => s!"invalid --fee '{text}': " ++ cause.message
| fileKind file =>
    s!"unsupported input extension for '{file}': expected .csv or "
      ++ ".json"
| scopeWithoutFunds scope =>
    s!"scope '{scope}' matches no funding source in the wallet "
      ++ "snapshot"

/- The entry of a refused value in the catalogue. -/
def taxonomy : FlagError → Taxonomy
| network _ => .flagCombination
| customFee => .flagCombination
| fee _ _ => .flagCombination
| fileKind _ => .missingArgument
| scopeWithoutFunds _ => .invalidConfig

/- The notice of a refused value. -/
def notice (e : FlagError) : Notice :=
  ⟨e.taxonomy, e.message⟩

end FlagError

end Remit
