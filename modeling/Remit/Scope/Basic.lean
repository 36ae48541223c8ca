import Remit.Amount.Basic
import Remit.Scope.IdSet

/-
  This file defines which funds a payment may spend, and what a
  choice of funds amounts to once the sources are known.

  Key definitions include:
    * `Scope`
    * `Scope.ofAddresses`
    * `Scope.toggle`
    * `Source`
    * `Balance`
    * `Scope.Includes`
    * `Scope.Stands`
    * `Scope.resolve`

  Key theorems include:
    * `Scope.includes_iff`
-/

namespace Remit

------------------------------------------------------------
-- Scopes
------------------------------------------------------------

/- All funds, those of one key, or those of some addresses. -/
inductive Scope where
| auto
| key (id : Int64)
| addresses (ids : IdSet)
deriving DecidableEq, Repr

/- Why there is no scope. -/
inductive ScopeError where
| emptySelection
| unreadable (text : String)
deriving DecidableEq, Repr

/- The wording of a scope failure. -/
def ScopeError.message : ScopeError → String
| emptySelection =>
    "an address selection must contain at least one address"
| unreadable text =>
    "invalid scope '" ++ text
      ++ "': expected auto, key:<id> or addresses:<id,...>"

namespace Scope

/- The scope of the addresses in a list, which must have one. -/
def ofAddresses (ids : List Int64) : Except ScopeError Scope :=
  if (IdSet.ofList ids).IsEmpty then
    .error .emptySelection
  else
    .ok (addresses (IdSet.ofList ids))

/-
  Select an address that is not selected, and drop one that is.
  Without any address left, all funds may be spent.
-/
def toggle (s : Scope) (id : Int64) : Scope :=
  match s with
  | addresses ids =>
      if id ∈ ids then
        if (ids.erase id).IsEmpty then
          auto
        else
          addresses (ids.erase id)
      else
        addresses (ids.insert id)
  | _ => addresses (IdSet.empty.insert id)

end Scope

------------------------------------------------------------
-- Sources
------------------------------------------------------------

/- The funds that one address of the wallet holds. -/
structure Source where
  keyId : Int64
  addressId : Int64
  address : String
  spendable : Amount
  pending : Amount
deriving DecidableEq, Repr

/- What can be spent now, and what waits for confirmation. -/
structure Balance where
  spendable : Amount
  pending : Amount
deriving DecidableEq, Repr

namespace Balance

/- Nothing to spend and nothing waiting. -/
def zero : Balance :=
  ⟨.zero, .zero⟩

/- A balance with the funds of a source, stopped at the supply. -/
def addSource (b : Balance) (s : Source) : Balance where
  spendable := b.spendable.addCapped s.spendable
  pending := b.pending.addCapped s.pending

/- The funds of all the sources. -/
def ofSources (sources : List Source) : Balance :=
  sources.foldl addSource zero

end Balance

------------------------------------------------------------
-- Resolution
------------------------------------------------------------

namespace Scope

/- The funds of a source may be spent. -/
def Includes (s : Scope) (source : Source) : Prop :=
  match s with
  | auto => True
  | key id => source.keyId = id
  | addresses ids => source.addressId ∈ ids

instance (s : Scope) (source : Source) :
    Decidable (s.Includes source) := by
  cases s <;> unfold Includes <;> infer_instance

/-
  All funds include every source, the funds of a key those with
  that key, and the funds of addresses those at one of them.
-/
theorem includes_iff
    {s : Scope}
    {source : Source} :
    s.Includes source ↔
      s = auto ∨
        s = key source.keyId ∨
        ∃ ids, s = addresses ids ∧ source.addressId ∈ ids := by
  cases s with
  | auto => simp [Includes]
  | key id => simp [Includes, eq_comm]
  | addresses ids => simp [Includes]

/- Whatever a scope names is still among the sources. -/
def Stands (s : Scope) (sources : List Source) : Prop :=
  match s with
  | auto => True
  | key id => ∃ source ∈ sources, source.keyId = id
  | addresses ids =>
      ¬ ids.IsEmpty ∧
        ∀ id ∈ ids.toList, ∃ source ∈ sources, source.addressId = id

instance (s : Scope) (sources : List Source) :
    Decidable (s.Stands sources) :=
  match s with
  | auto => instDecidableTrue
  | key _ => List.decidableBEx _ sources
  | addresses ids =>
      @instDecidableAnd _ _ instDecidableNot
        (List.decidableBAll _ ids.toList)

/- A scope that stands, what it amounts to, and whether it was asked for. -/
structure Resolved where
  scope : Scope
  balance : Balance
  demoted : Bool
deriving DecidableEq, Repr

/- The funds of the sources that a scope includes. -/
def balance (s : Scope) (sources : List Source) : Balance :=
  Balance.ofSources (sources.filter (fun source => s.Includes source))

/- Keep a scope that stands, and fall back to all funds otherwise. -/
def resolve (s : Scope) (sources : List Source) : Resolved :=
  if s.Stands sources then
    ⟨s, s.balance sources, false⟩
  else
    ⟨auto, auto.balance sources, true⟩

end Scope

end Remit
