import Remit.Fee
import Remit.Json.Record
import Remit.Json.Value
import Remit.Network
import Remit.Scope.Basic

/-
  This file gives the stored JSON forms of amounts, networks,
  fees, scopes, sources and balances.

  Key definitions include:
    * `Amount.ofTree?`
    * `Network.ofTree?`
    * `FeeBounds.ofTree?`
    * `Scope.ofTree?`
    * `Source.ofTree?`
    * `Balance.ofTree?`
-/

namespace Remit

open Json

------------------------------------------------------------
-- Amounts
------------------------------------------------------------

/- An amount is stored as its units. -/
def Amount.toValue (a : Amount) : Value :=
  .natural a.units

/- Read an amount. -/
def Amount.ofTree? (t : Tree) : Option Amount := do
  let n ← t.natural? Numeral.wordMax
  (Amount.ofUnits n).toOption

------------------------------------------------------------
-- Networks and Presets
------------------------------------------------------------

/- A network is stored as its name. -/
def Network.toValue (n : Network) : Value :=
  .text n.name

/- The network of a name. -/
def Network.ofName? (name : String) : Option Network :=
  Network.all.find? (fun n => n.name == name)

/- Read a network. -/
def Network.ofTree? (t : Tree) : Option Network :=
  t.choice? Network.ofName?

/- A preset is stored as its name. -/
def FeePreset.toValue (p : FeePreset) : Value :=
  .text p.name

/- The preset of a name. -/
def FeePreset.ofName? (name : String) : Option FeePreset :=
  FeePreset.all.find? (fun p => p.name == name)

/- Read a preset. -/
def FeePreset.ofTree? (t : Tree) : Option FeePreset :=
  t.choice? FeePreset.ofName?

------------------------------------------------------------
-- Fee Bounds
------------------------------------------------------------

/- The fields of stored bounds. -/
def FeeBounds.fields : List String :=
  ["min_fee", "default_fee", "max_fee"]

/- Bounds as they are stored. -/
def FeeBounds.toValue (b : FeeBounds) : Value :=
  .record
    [("min_fee", b.least.toValue),
     ("default_fee", b.usual.toValue),
     ("max_fee", b.most.toValue)]

/- Read bounds. -/
def FeeBounds.ofTree? (t : Tree) : Option FeeBounds := do
  let r ← t.record? FeeBounds.fields
  let least ← r.required? "min_fee" Amount.ofTree?
  let usual ← r.required? "default_fee" Amount.ofTree?
  let most ← r.required? "max_fee" Amount.ofTree?
  some ⟨least, usual, most⟩

------------------------------------------------------------
-- Scopes
------------------------------------------------------------

/- The kinds of stored scopes. -/
inductive Scope.Kind where
| auto
| key
| addresses
deriving DecidableEq, Repr

/- The kind of a name. -/
def Scope.Kind.ofName? : String → Option Scope.Kind
| "auto" => some auto
| "by_key" => some key
| "by_addresses" => some addresses
| _ => none

/- An identifier as it is stored. -/
def idValue (id : Int64) : Value :=
  .integer id.toInt

/- A scope is stored as its kind and the identifiers it names. -/
def Scope.toValue : Scope → Value
| auto => .record [("kind", .text "auto")]
| key id => .record [("kind", .text "by_key"), ("ids", idValue id)]
| addresses ids =>
    .record
      [("kind", .text "by_addresses"),
       ("ids", Value.ofList idValue ids.toList)]

/- Read what a scope of some kind names. -/
def Scope.ofIds? (kind : Scope.Kind) (ids : Option Tree) :
    Option Scope :=
  match kind, ids with
  | .auto, none => some auto
  | .auto, some .null => some auto
  | .key, some t => t.word?.map key
  | .addresses, some t =>
      (t.mapList? Tree.word?).map (fun ids => addresses (IdSet.ofList ids))
  | _, _ => none

/-
  Read the kind of a scope. In an object it is a choice, which
  has two forms; in a list it is only a name.
-/
def Scope.Kind.ofTree? (positional : Bool) (t : Tree) :
    Option Scope.Kind :=
  if positional then
    t.text?.bind Scope.Kind.ofName?
  else
    t.choice? Scope.Kind.ofName?

/- Read a scope; in a list, both the kind and the rest must be there. -/
def Scope.ofTree? (t : Tree) : Option Scope := do
  let r ← t.record? ["kind", "ids"]
  let kind ← r.required? "kind" (Scope.Kind.ofTree? r.positional)
  let ids := r.get? "ids"
  if r.positional ∧ ids.isNone then
    none
  else
    Scope.ofIds? kind ids

------------------------------------------------------------
-- Sources and Balances
------------------------------------------------------------

/- The fields of a stored source. -/
def Source.fields : List String :=
  ["key_id", "address_id", "address", "spendable", "pending"]

/- A source as it is stored. -/
def Source.toValue (s : Source) : Value :=
  .record
    [("key_id", idValue s.keyId),
     ("address_id", idValue s.addressId),
     ("address", .text s.address),
     ("spendable", s.spendable.toValue),
     ("pending", s.pending.toValue)]

/- Read a source; nothing is pending unless it is told. -/
def Source.ofTree? (t : Tree) : Option Source := do
  let r ← t.record? Source.fields
  let keyId ← r.required? "key_id" Tree.word?
  let addressId ← r.required? "address_id" Tree.word?
  let address ← r.required? "address" Tree.text?
  let spendable ← r.required? "spendable" Amount.ofTree?
  let pending ← r.defaulted? "pending" Amount.zero Amount.ofTree?
  some ⟨keyId, addressId, address, spendable, pending⟩

/- The fields of a stored balance. -/
def Balance.fields : List String :=
  ["spendable", "pending"]

/- A balance as it is stored. -/
def Balance.toValue (b : Balance) : Value :=
  .record
    [("spendable", b.spendable.toValue),
     ("pending", b.pending.toValue)]

/- Read a balance. -/
def Balance.ofTree? (t : Tree) : Option Balance := do
  let r ← t.record? Balance.fields
  let spendable ← r.required? "spendable" Amount.ofTree?
  let pending ← r.required? "pending" Amount.ofTree?
  some ⟨spendable, pending⟩

end Remit
