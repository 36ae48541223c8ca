/-
  This file defines the catalogue of failures: every failure
  that is shown to a person or to a program has one entry, with
  a number and a name that never change.

  Key definitions include:
    * `Taxonomy`
    * `Taxonomy.all`
    * `Taxonomy.code`
    * `Taxonomy.name`
    * `Notice`
-/

namespace Remit

/-
  One entry for each kind of failure. The thousands of an
  entry's number tell its family: one for what was entered, two
  for the command line, three for the balance, four for the
  wallet engine and five for the state of the flow.
-/
inductive Taxonomy where
| invalidAddress
| invalidAmount
| amountOutOfRange
| memoTooLong
| memoInvalid
| importUnreadable
| networkMismatch
| recipientCapacity
| formulaInjection
| importTooLarge
| importTooManyRows
| missingColumn
| noRecipients
| missingArgument
| flagCombination
| confirmationRequired
| stdinBlocked
| invalidConfig
| insufficientFunds
| insufficientFundsPending
| engineNetwork
| engineRejected
| engineInsufficientFee
| engineInsufficientFunds
| engineUnknown
| actionNotPermitted
| invalidTransition
| missingTransaction
| staleTransaction
deriving DecidableEq, Repr

namespace Taxonomy

/- Every entry, in the order of the catalogue. -/
def all : List Taxonomy :=
  [invalidAddress, invalidAmount, amountOutOfRange, memoTooLong,
   memoInvalid, importUnreadable, networkMismatch,
   recipientCapacity, formulaInjection, importTooLarge,
   importTooManyRows, missingColumn, noRecipients,
   missingArgument, flagCombination, confirmationRequired,
   stdinBlocked, invalidConfig, insufficientFunds,
   insufficientFundsPending, engineNetwork, engineRejected,
   engineInsufficientFee, engineInsufficientFunds, engineUnknown,
   actionNotPermitted, invalidTransition, missingTransaction,
   staleTransaction]

/- The number of an entry. -/
def code : Taxonomy → Nat
| invalidAddress => 1001
| invalidAmount => 1002
| amountOutOfRange => 1003
| memoTooLong => 1004
| memoInvalid => 1005
| importUnreadable => 1006
| networkMismatch => 1007
| recipientCapacity => 1008
| formulaInjection => 1009
| importTooLarge => 1010
| importTooManyRows => 1011
| missingColumn => 1012
| noRecipients => 1013
| missingArgument => 2001
| flagCombination => 2002
| confirmationRequired => 2003
| stdinBlocked => 2004
| invalidConfig => 2005
| insufficientFunds => 3001
| insufficientFundsPending => 3002
| engineNetwork => 4001
| engineRejected => 4002
| engineInsufficientFee => 4003
| engineInsufficientFunds => 4004
| engineUnknown => 4099
| actionNotPermitted => 5001
| invalidTransition => 5002
| missingTransaction => 5003
| staleTransaction => 5004

/- The name of an entry. -/
def name : Taxonomy → String
| invalidAddress => "INVALID_ADDRESS"
| invalidAmount => "INVALID_AMOUNT"
| amountOutOfRange => "AMOUNT_OUT_OF_RANGE"
| memoTooLong => "MEMO_TOO_LONG"
| memoInvalid => "MEMO_INVALID"
| importUnreadable => "IMPORT_PARSE_ERROR"
| networkMismatch => "NETWORK_MISMATCH"
| recipientCapacity => "RECIPIENT_CAPACITY"
| formulaInjection => "CSV_FORMULA_INJECTION"
| importTooLarge => "IMPORT_TOO_LARGE"
| importTooManyRows => "IMPORT_TOO_MANY_ROWS"
| missingColumn => "MISSING_REQUIRED_COLUMN"
| noRecipients => "NO_RECIPIENTS"
| missingArgument => "MISSING_REQUIRED_ARGUMENT"
| flagCombination => "INVALID_FLAG_COMBINATION"
| confirmationRequired => "CONFIRMATION_REQUIRED"
| stdinBlocked => "STDIN_BLOCKED"
| invalidConfig => "INVALID_CONFIG"
| insufficientFunds => "INSUFFICIENT_FUNDS"
| insufficientFundsPending => "INSUFFICIENT_FUNDS_PENDING"
| engineNetwork => "ENGINE_NETWORK"
| engineRejected => "ENGINE_REJECTED"
| engineInsufficientFee => "ENGINE_INSUFFICIENT_FEE"
| engineInsufficientFunds => "ENGINE_INSUFFICIENT_FUNDS"
| engineUnknown => "ENGINE_UNKNOWN"
| actionNotPermitted => "ACTION_NOT_PERMITTED"
| invalidTransition => "INVALID_TRANSITION"
| missingTransaction => "MISSING_TRANSACTION"
| staleTransaction => "STALE_TRANSACTION"

/- An entry is written as its number and its name. -/
def text (t : Taxonomy) : String :=
  toString t.code ++ ":" ++ t.name

/- The catalogue leaves out no entry. -/
theorem mem_all
    (t : Taxonomy) :
    t ∈ all := by
  cases t <;> decide

end Taxonomy

/- What is kept of a failure to be shown later. -/
structure Notice where
  taxonomy : Taxonomy
  message : String
deriving DecidableEq, Repr

end Remit
