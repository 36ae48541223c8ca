import Remit.Amount.Decimal
import Remit.Memo

/-
  This file defines what is pointed out about a composition
  although it can be paid.

  Key definitions include:
    * `Warning`
    * `Warning.message`
-/

namespace Remit

/- What is pointed out; rows are counted from zero. -/
inductive Warning where
| duplicateAddress (first : Nat) (row : Nat)
| memoNearLimit (row : Nat) (bytes : Nat)
| customFeeAdjusted (requested : Amount) (applied : Amount)
deriving DecidableEq, Repr

namespace Warning

/- The code of a warning. -/
def code : Warning → String
| duplicateAddress _ _ => "W001"
| memoNearLimit _ _ => "W002"
| customFeeAdjusted _ _ => "W003"

/- The wording of a warning, with rows counted from one. -/
def message : Warning → String
| duplicateAddress first row =>
    "recipient " ++ toString (row + 1)
      ++ " pays the same address as recipient "
      ++ toString (first + 1)
| memoNearLimit row bytes =>
    "memo for recipient " ++ toString (row + 1) ++ " uses "
      ++ toString bytes ++ " of " ++ toString Memo.mostBytes
      ++ " bytes"
| customFeeAdjusted requested applied =>
    "custom fee " ++ requested.fixedText
      ++ " ARRR is outside the allowed range; using "
      ++ applied.fixedText ++ " ARRR"

end Warning

end Remit
