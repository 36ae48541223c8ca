import Remit.Taxonomy

/-
  This file defines why a file of recipients is refused.

  Key definitions include:
    * `ImportError`
    * `ImportError.notice`
-/

namespace Remit

/-
  What a reader of a file format has to say about a text is left
  to it; this mark stands for it in a wording.
-/
def libraryMark : String :=
  "<library>"

/-
  Why a file is refused. Rows are counted with the header as the
  first one, except for a count of units, which names the
  recipient's place in the list.
-/
inductive ImportError where
| tooLarge (source : String) (most : Nat)
| tooManyRows (most : Nat)
| headersUnreadable
| recordUnreadable (row : Nat)
| documentUnreadable (source : String)
| formula (row : Nat) (column : String)
| badUnits (row : Nat) (text : String)
| noAddressColumn
| noAmountColumn
deriving DecidableEq, Repr

namespace ImportError

/- The wording of an import failure. -/
def message : ImportError → String
| tooLarge source most =>
    s!"input '{source}' exceeds maximum file size of {most} bytes"
| tooManyRows most => s!"input has more than {most} data rows"
| headersUnreadable => "failed reading CSV headers: " ++ libraryMark
| recordUnreadable row =>
    s!"failed parsing CSV row {row}: " ++ libraryMark
| documentUnreadable source =>
    s!"failed parsing JSON recipients in '{source}': " ++ libraryMark
| formula row column =>
    s!"formula injection detected at row {row}, column {column}"
| badUnits row text =>
    s!"row {row}: '{text}' is not a valid arrrtoshi amount"
| noAddressColumn =>
    "missing required CSV column: address|recipient|to"
| noAmountColumn =>
    "missing required CSV amount column: amount|value|arrr or "
      ++ "amount_arrrtoshis|arrrtoshis"

/- The entry of an import failure in the catalogue. -/
def taxonomy : ImportError → Taxonomy
| tooLarge _ _ => .importTooLarge
| tooManyRows _ => .importTooManyRows
| headersUnreadable => .importUnreadable
| recordUnreadable _ => .importUnreadable
| documentUnreadable _ => .importUnreadable
| formula _ _ => .formulaInjection
| badUnits _ _ => .invalidAmount
| noAddressColumn => .missingColumn
| noAmountColumn => .missingColumn

/- The notice of an import failure. -/
def notice (e : ImportError) : Notice :=
  ⟨e.taxonomy, e.message⟩

end ImportError

end Remit
