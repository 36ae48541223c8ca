import Remit.Fee
import Remit.Memo
import Remit.Network

/-
  This file defines the settings of a wallet that sends
  payments.

  Key definitions include:
    * `Config`
    * `ConfigError`
    * `Config.check`
-/

namespace Remit

/- The settings; each has a value that holds unless configured. -/
structure Config where
  network : Network := .mainnet
  maxRecipients : Nat := 50
  surcharge : Amount := FeePolicy.usualSurcharge
  fallbackFees : FeeBounds := FeeBounds.fallback
  memoWarningBytes : Nat := Memo.warningBytes
deriving DecidableEq, Repr

/- Why settings cannot be used. -/
inductive ConfigError where
| noCapacity
| memoWarning
| feeBounds
deriving DecidableEq, Repr

/- The wording of a settings failure. -/
def ConfigError.message : ConfigError → String
| noCapacity => "max_recipients must be at least 1"
| memoWarning =>
    "memo_warning_bytes must not exceed "
      ++ toString Memo.mostBytes
| feeBounds => "fallback min fee is above the max fee"

namespace Config

/- The settings for a network. -/
def ofNetwork (n : Network) : Config :=
  { network := n }

/- The fee policy that follows from bounds. -/
def feePolicy (c : Config) (b : FeeBounds) : FeePolicy :=
  FeePolicy.ofBounds b c.surcharge

/- Check the settings; the first thing wrong is reported. -/
def check (c : Config) : Except ConfigError Unit :=
  if c.maxRecipients = 0 then
    .error .noCapacity
  else if Memo.mostBytes < c.memoWarningBytes then
    .error .memoWarning
  else if c.fallbackFees.most < c.fallbackFees.least then
    .error .feeBounds
  else
    .ok ()

end Config

end Remit
