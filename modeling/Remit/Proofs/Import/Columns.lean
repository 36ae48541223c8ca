import Remit.Import.Csv
import Remit.Proofs.Except

/-
  This file states what a record of a CSV file has to say in a
  column: the trimmed cell under the first header that names the
  column, unless that is blank or missing. It shows that the
  places of columns lead to just these cells.

  Key definitions include:
    * `Import.IsFirstAt`
    * `Import.Column.names`
    * `Import.Column.IsNamedBy`
    * `Import.HasCell`
    * `Import.Says`
    * `Import.IsPlacedBy`

  Key theorems include:
    * `Import.Column.ofHeader?_eq_some_iff`
    * `Import.cell?_eq_some_iff`
    * `Import.filledCell?_eq_some_iff`
    * `Import.isPlacedBy_of_ofHeaders`
    * `Import.exists_ofHeaders_iff`
-/

namespace Remit

namespace Import

------------------------------------------------------------
-- First Places
------------------------------------------------------------

/- A place is that of the first of several texts with a property. -/
def IsFirstAt
    (P : String → Prop)
    (texts : List String)
    (i : Nat) : Prop :=
  (∃ text, texts[i]? = some text ∧ P text) ∧
    ∀ j < i, ∀ text, texts[j]? = some text → ¬ P text

/- A search for the property ends at this place. -/
theorem findIdx?_eq_some_iff_isFirstAt
    {P : String → Prop}
    {p : String → Bool}
    {texts : List String}
    {i : Nat}
    (hp : ∀ text, p text = true ↔ P text) :
    texts.findIdx? p = some i ↔ IsFirstAt P texts i := by
  rw [List.findIdx?_eq_some_iff_getElem]
  simp only [hp]
  unfold IsFirstAt
  constructor
  · intro h
    rcases h with ⟨hi, hIs, hFirst⟩
    refine ⟨⟨texts[i], List.getElem?_eq_getElem hi, hIs⟩, ?_⟩
    intro j hj text hText
    rcases List.getElem?_eq_some_iff.mp hText with ⟨_, rfl⟩
    exact hFirst j hj
  · intro h
    rcases h with ⟨⟨text, hText, hIs⟩, hFirst⟩
    rcases List.getElem?_eq_some_iff.mp hText with ⟨hi, rfl⟩
    refine ⟨hi, hIs, fun j hj => ?_⟩
    exact hFirst j hj _ (List.getElem?_eq_getElem (Nat.lt_trans hj hi))

------------------------------------------------------------
-- Names of Columns
------------------------------------------------------------

namespace Column

variable {column other : Column} {name header : String}

/- The names that a column may have. -/
def names : Column → List String
| address => ["address", "recipient", "to"]
| amount => ["amount", "value", "arrr"]
| units => ["amount_arrrtoshis", "arrrtoshis"]
| memo => ["memo", "message", "note"]
| label => ["label", "name"]

/- A header names a column, blanks and letter case aside. -/
def IsNamedBy (column : Column) (header : String) : Prop :=
  Text.lower (Text.trim header) ∈ column.names

instance (column : Column) (header : String) :
    Decidable (column.IsNamedBy header) := by
  unfold IsNamedBy
  infer_instance

/- No name is that of two columns. -/
theorem eq_of_mem_names
    (h : name ∈ column.names)
    (hOther : name ∈ other.names) :
    column = other := by
  have hApart :
      ∀ name ∈ column.names, name ∈ other.names →
        column = other := by
    cases column <;> cases other <;> decide
  exact hApart name h hOther

/- A name is understood as that of the column which has it. -/
theorem ofName?_eq_some_iff :
    ofName? name = some column ↔ name ∈ column.names := by
  have hSome :
      ∀ found : Column, name ∈ found.names →
        (some found = some column ↔ name ∈ column.names) := by
    intro found hFound
    rw [Option.some.injEq]
    exact ⟨fun h => h ▸ hFound, fun h => eq_of_mem_names hFound h⟩
  unfold ofName?
  split
  · exact hSome address (by assumption)
  split
  · exact hSome amount (by assumption)
  split
  · exact hSome units (by assumption)
  split
  · exact hSome memo (by assumption)
  split
  · exact hSome label (by assumption)
  · refine iff_of_false nofun ?_
    cases column <;> assumption

/- A header is understood as the column that it names. -/
theorem ofHeader?_eq_some_iff :
    ofHeader? header = some column ↔ column.IsNamedBy header :=
  ofName?_eq_some_iff

end Column

------------------------------------------------------------
-- Cells
------------------------------------------------------------

variable {headers cells : List String} {column : Column}
variable {text : String}

/- The cell of a record under the first header that names a column. -/
def HasCell
    (headers cells : List String)
    (column : Column)
    (cell : String) : Prop :=
  ∃ i, IsFirstAt column.IsNamedBy headers i ∧ cells[i]? = some cell

/- What a record says in a column: its trimmed cell, unless blank. -/
def Says
    (headers cells : List String)
    (column : Column)
    (text : String) : Prop :=
  text ≠ "" ∧
    ∃ cell, HasCell headers cells column cell ∧ Text.trim cell = text

/- The place of a column in a file with headers. -/
def placeIn? (headers : List String) (column : Column) : Option Nat :=
  place? (headers.map Column.ofHeader?) column

/- It is that of the first header that names the column. -/
theorem placeIn?_eq_some_iff
    {i : Nat} :
    placeIn? headers column = some i ↔
      IsFirstAt column.IsNamedBy headers i := by
  unfold placeIn? place?
  rw [List.findIdx?_map]
  apply findIdx?_eq_some_iff_isFirstAt
  intro header
  rw [Function.comp_apply, decide_eq_true_eq,
    Column.ofHeader?_eq_some_iff]

/- There is one exactly if some header names the column. -/
theorem isSome_placeIn?_iff :
    (placeIn? headers column).isSome ↔
      ∃ header ∈ headers, column.IsNamedBy header := by
  unfold placeIn? place?
  rw [List.findIdx?_map, List.findIdx?_isSome, List.any_eq_true]
  simp only [Function.comp_apply, Column.ofHeader?_eq_some_iff,
    decide_eq_true_eq]

/- What is taken from its place is a trimmed cell of the column. -/
theorem cell?_eq_some_iff :
    cell? cells (placeIn? headers column) = some text ↔
      ∃ cell, HasCell headers cells column cell ∧
        Text.trim cell = text := by
  unfold cell? HasCell
  simp only [Option.map_eq_some_iff, Option.bind_eq_some_iff,
    placeIn?_eq_some_iff]

/- What is left of its place is what the record says there. -/
theorem filledCell?_eq_some_iff :
    filledCell? cells (placeIn? headers column) = some text ↔
      Says headers cells column text := by
  unfold filledCell? Says
  rw [Option.filter_eq_some_iff, cell?_eq_some_iff, and_comm]
  simp only [ne_eq, decide_eq_true_eq]

/- Nothing is left exactly if the record says nothing there. -/
theorem filledCell?_eq_none_iff :
    filledCell? cells (placeIn? headers column) = none ↔
      ∀ text, ¬ Says headers cells column text := by
  simp only [Option.eq_none_iff_forall_ne_some, ne_eq,
    filledCell?_eq_some_iff]

/- A record says one thing in a column. -/
theorem Says.unique
    {other : String}
    (h : Says headers cells column text)
    (hOther : Says headers cells column other) :
    text = other := by
  rw [← filledCell?_eq_some_iff] at h hOther
  exact Option.some.inj (h.symm.trans hOther)

------------------------------------------------------------
-- Places of Columns
------------------------------------------------------------

/- The places are those of the columns in a file with headers. -/
structure IsPlacedBy
    (columns : Columns)
    (headers : List String) : Prop where
  address : placeIn? headers .address = some columns.address
  amount : columns.amount = placeIn? headers .amount
  units : columns.units = placeIn? headers .units
  memo : columns.memo = placeIn? headers .memo
  label : columns.label = placeIn? headers .label

/-
  The places of columns, one by one. Without those of addresses
  and of some column of amounts, none are found.
-/
theorem ofHeaders_eq :
    Columns.ofHeaders headers =
      match placeIn? headers .address with
      | none => .error .noAddressColumn
      | some address =>
          if (placeIn? headers .amount).isNone ∧
              (placeIn? headers .units).isNone then
            .error .noAmountColumn
          else
            .ok
              ⟨address, placeIn? headers .amount,
               placeIn? headers .units, placeIn? headers .memo,
               placeIn? headers .label⟩ :=
  rfl

/- The places that are found are those of the columns. -/
theorem isPlacedBy_of_ofHeaders
    {columns : Columns}
    (h : Columns.ofHeaders headers = .ok columns) :
    IsPlacedBy columns headers := by
  rw [ofHeaders_eq] at h
  split at h
  · cases h
  · rename_i address hAddress
    split at h
    · cases h
    · cases h
      exact ⟨hAddress, rfl, rfl, rfl, rfl⟩

/-
  They are found exactly if some header names the column of
  addresses and some header one of the columns of amounts.
-/
theorem exists_ofHeaders_iff :
    (∃ columns, Columns.ofHeaders headers = .ok columns) ↔
      (∃ header ∈ headers, Column.address.IsNamedBy header) ∧
        ∃ header ∈ headers, Column.amount.IsNamedBy header ∨
          Column.units.IsNamedBy header := by
  have hNamed :
      ∀ column, (¬ (placeIn? headers column).isNone) ↔
        ∃ header ∈ headers, column.IsNamedBy header := by
    intro column
    rw [← isSome_placeIn?_iff, Option.isNone_iff_eq_none]
    exact Option.isSome_iff_ne_none.symm
  have hAmount :
      (∃ header ∈ headers, Column.amount.IsNamedBy header ∨
          Column.units.IsNamedBy header) ↔
        ¬ ((placeIn? headers .amount).isNone ∧
          (placeIn? headers .units).isNone) := by
    rw [not_and_or, hNamed, hNamed]
    simp only [and_or_left, exists_or]
  rw [hAmount, ← isSome_placeIn?_iff, ofHeaders_eq]
  split
  · rename_i hAddress
    rw [hAddress]
    exact iff_of_false nofun nofun
  · rename_i address hAddress
    rw [hAddress]
    split
    · rename_i hNone
      exact iff_of_false nofun (fun h => h.2 hNone)
    · rename_i hSome
      exact iff_of_true ⟨_, rfl⟩ ⟨rfl, hSome⟩

end Import

end Remit
