import Remit.Command.FlagError
import Remit.Config
import Remit.Engine.Error
import Remit.Flow.Stage
import Remit.Import.Error
import Remit.Problems
import Remit.Scope.Basic
import Remit.Wallet.Error

/-
  This file defines everything that can go wrong between the
  entry of a payment and its broadcast.

  Key definitions include:
    * `SendError`
    * `SendError.message`
    * `SendError.taxonomy`
    * `SendError.userMessage`
    * `SendError.notice`
-/

namespace Remit

/- The failures, by the part that reports them. -/
inductive SendError where
| amount (cause : AmountError)
| fault (cause : Fault)
| problems (cause : Problems)
| engine (cause : EngineError)
| stage (cause : StageError)
| scope (cause : ScopeError)
| noSuchRow (row : Nat) (rows : Nat)
| file (detail : String)
| json
| imported (cause : ImportError)
| config (cause : ConfigError)
| wallet (cause : WalletError)
| flag (cause : FlagError)
| listed (cause : Notice)
deriving DecidableEq, Repr

namespace SendError

/- The wording of a notice with its entry in front. -/
def listedMessage (n : Notice) : String :=
  "[" ++ n.taxonomy.text ++ "] " ++ n.message

/- The notice that a configuration failure amounts to. -/
def configNotice (e : ConfigError) : Notice :=
  ⟨.invalidConfig, e.message⟩

/- The full wording of a failure. -/
def message : SendError → String
| amount cause => "amount error: " ++ cause.message
| fault cause => "validation error: " ++ cause.message
| problems cause => cause.message
| engine cause => "engine error: " ++ cause.message
| stage cause => "state error: " ++ cause.message
| scope cause => "scope error: " ++ cause.message
| noSuchRow row rows =>
    s!"recipient index {row} is out of range ({rows} recipients)"
| file detail => "io error: " ++ detail
| json => "json error: " ++ libraryMark
| imported cause => listedMessage cause.notice
| config cause => listedMessage (configNotice cause)
| wallet cause => listedMessage cause.notice
| flag cause => listedMessage cause.notice
| listed cause => listedMessage cause

/- The entry of a failure in the catalogue. -/
def taxonomy : SendError → Taxonomy
| amount cause => cause.taxonomy
| fault cause => cause.taxonomy
| problems cause => cause.taxonomy
| engine cause => cause.taxonomy
| stage cause => cause.taxonomy
| scope _ => .invalidConfig
| noSuchRow _ _ => .actionNotPermitted
| file _ => .invalidConfig
| json => .importUnreadable
| imported cause => cause.taxonomy
| config _ => .invalidConfig
| wallet _ => .invalidConfig
| flag cause => cause.taxonomy
| listed cause => cause.taxonomy

/- The wording of a failure for the person who pays. -/
def userMessage : SendError → String
| engine cause => cause.userMessage
| imported cause => cause.message
| config cause => cause.message
| wallet cause => cause.message
| flag cause => cause.message
| listed cause => cause.message
| other => other.message

/- What is kept of a failure to be shown later. -/
def notice (e : SendError) : Notice :=
  ⟨e.taxonomy, e.userMessage⟩

end SendError

end Remit
