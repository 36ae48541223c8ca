import Remit.Proofs.Scope.Spelling
import Remit.Stored.Money

/-
  This file follows a scope to where it came from: it was chosen,
  read from a text or from stored JSON, and then toggled and
  resolved any number of times. An empty choice of addresses
  comes about in one way only, from stored JSON that lists no
  identifiers, and nothing is left of it after the first step.

  Key definitions include:
    * `Scope.ofStored?`
    * `Scope.Origin`
    * `Scope.Origin.scope?`
    * `Scope.Origin.ListsNothing`

  Key theorems include:
    * `Scope.isProper_iff_of_ofTree?`
    * `Scope.isProper_resolve`
    * `Scope.Origin.isProper_iff_of_scope?`
    * `Scope.Origin.not_forall_isProper`
-/

namespace Remit

open Json

namespace Scope

variable {s : Scope} {t : Tree}

------------------------------------------------------------
-- Stored Scopes
------------------------------------------------------------

/- The scope that the bytes of stored JSON spell. -/
def ofStored? (bytes : Bytes) : Option Scope := do
  let d ← Document.ofBytes? bytes
  ofTree? d.tree

/- Stored JSON lists no identifiers. -/
def StoresNothing (t : Tree) : Prop :=
  ∃ r, t.record? ["kind", "ids"] = some r ∧
    r.get? "ids" = some (.list [])

/- Nothing is read off a list that holds nothing, and the converse. -/
private theorem mapList?_eq_nil_iff
    {ids : List Int64}
    (h : t.mapList? Tree.word? = some ids) :
    ids = [] ↔ t = .list [] := by
  cases t with
  | list items =>
      have hItems : items.mapM Tree.word? = some ids := h
      rw [Tree.list.injEq]
      cases items with
      | nil =>
          cases hItems
          exact iff_of_true rfl rfl
      | cons item items =>
          rw [List.mapM_cons] at hItems
          simp only [Option.bind_eq_bind, Option.bind_eq_some_iff]
            at hItems
          rcases hItems with ⟨id, _, rest, _, hIds⟩
          cases hIds
          exact iff_of_false nofun nofun
  | null => cases h
  | bool b => cases h
  | number n => cases h
  | quoted q => cases h
  | object fields => cases h

/- What is read of a kind is proper unless no identifiers are listed. -/
private theorem isProper_iff_of_ofIds?
    {kind : Kind}
    {ids : Option Tree}
    (h : ofIds? kind ids = some s) :
    s.IsProper ↔ ids ≠ some (.list []) := by
  unfold ofIds? at h
  split at h
  · cases h
    exact iff_of_true isProper_auto nofun
  · cases h
    exact iff_of_true isProper_auto nofun
  · rename_i t
    rcases Option.map_eq_some_iff.mp h with ⟨id, hWord, rfl⟩
    refine iff_of_true nofun (fun hNone => ?_)
    rw [Option.some.inj hNone] at hWord
    cases hWord
  · rename_i t
    rcases Option.map_eq_some_iff.mp h with ⟨ids, hList, rfl⟩
    have hNone : (IdSet.ofList ids).IsEmpty ↔ t = .list [] := by
      rw [IdSet.isEmpty_ofList_iff]
      exact mapList?_eq_nil_iff hList
    rw [ne_eq, Option.some.injEq, ← hNone]
    constructor
    · exact fun hProper => hProper _ rfl
    · rintro hSome set hSet
      cases hSet
      exact hSome
  · cases h

/- A stored scope is proper unless it lists no identifiers. -/
theorem isProper_iff_of_ofTree?
    (h : ofTree? t = some s) :
    s.IsProper ↔ ¬ StoresNothing t := by
  unfold ofTree? at h
  simp only [Option.bind_eq_bind, Option.bind_eq_some_iff] at h
  rcases h with ⟨r, hRecord, kind, _, hIds⟩
  split at hIds
  · cases hIds
  · rw [isProper_iff_of_ofIds? hIds]
    unfold StoresNothing
    rw [hRecord]
    simp only [Option.some.injEq, exists_eq_left', ne_eq]

/- Whatever a scope is resolved to is proper. -/
theorem isProper_resolve
    (s : Scope)
    (sources : List Source) :
    (s.resolve sources).scope.IsProper :=
  isProper_of_stands (stands_resolve s sources)

------------------------------------------------------------
-- Origins
------------------------------------------------------------

/-
  Where a scope comes from: it is all funds, a key, a choice of
  identifiers, a text or stored JSON, or else another scope with
  an address toggled or resolved among sources.
-/
inductive Origin where
| all
| key (id : Int64)
| chosen (ids : List Int64)
| spelled (text : String)
| stored (bytes : Bytes)
| toggled (o : Origin) (id : Int64)
| resolved (o : Origin) (sources : List Source)

namespace Origin

/- The scope that comes of it, if nothing is refused on the way. -/
def scope? : Origin → Option Scope
| all => some .auto
| key id => some (.key id)
| chosen ids => (ofAddresses ids).toOption
| spelled text => (ofText text).toOption
| stored bytes => ofStored? bytes
| toggled o id => o.scope?.map (fun s => s.toggle id)
| resolved o sources =>
    o.scope?.map (fun s => (s.resolve sources).scope)

/- It is nothing but stored JSON, and that lists no identifiers. -/
def ListsNothing : Origin → Prop
| stored bytes =>
    ∃ d, Document.ofBytes? bytes = some d ∧ StoresNothing d.tree
| _ => False

variable {o : Origin}

/- What comes of a step that may fail is what that gives. -/
private theorem eq_ok_of_toOption
    {x : Except ScopeError Scope}
    (h : x.toOption = some s) :
    x = .ok s := by
  cases x with
  | ok s' => exact congrArg Except.ok (Option.some.inj h)
  | error e => cases h

/-
  What comes of an origin is proper, unless that is stored JSON
  that lists no identifiers. The cases are the last steps: a
  toggle and a resolution leave a proper scope of any.
-/
theorem isProper_iff_of_scope?
    (h : o.scope? = some s) :
    s.IsProper ↔ ¬ o.ListsNothing := by
  cases o with
  | all =>
      cases h
      exact iff_of_true isProper_auto not_false
  | key id =>
      cases h
      exact iff_of_true nofun not_false
  | chosen ids =>
      have hOk : ofAddresses ids = .ok s := eq_ok_of_toOption h
      exact iff_of_true (isProper_of_ofAddresses hOk) not_false
  | spelled text =>
      have hOk : ofText text = .ok s := eq_ok_of_toOption h
      have hSpells := readList_eq_ok_iff.mp hOk
      exact iff_of_true hSpells.isProper not_false
  | stored bytes =>
      have hStored : ofStored? bytes = some s := h
      unfold ofStored? at hStored
      simp only [Option.bind_eq_bind, Option.bind_eq_some_iff]
        at hStored
      rcases hStored with ⟨d, hDocument, hTree⟩
      rw [isProper_iff_of_ofTree? hTree]
      change _ ↔
        ¬ ∃ d, Document.ofBytes? bytes = some d ∧ StoresNothing d.tree
      rw [hDocument]
      simp only [Option.some.injEq, exists_eq_left']
  | toggled o id =>
      rcases Option.map_eq_some_iff.mp h with ⟨before, _, rfl⟩
      exact iff_of_true (isProper_toggle before id) not_false
  | resolved o sources =>
      rcases Option.map_eq_some_iff.mp h with ⟨before, _, rfl⟩
      exact iff_of_true (isProper_resolve before sources) not_false

/- Stored JSON of a choice of addresses without any. -/
def emptied : Origin :=
  .stored (Utf8.encode "\x7b\"kind\":\"by_addresses\",\"ids\":[]\x7d")

/- It is read as the empty choice. -/
theorem scope?_emptied :
    emptied.scope? = some (addresses .empty) := by
  decide +kernel

/- One toggle is enough to make a proper choice of the empty one. -/
theorem isProper_iff_of_scope?_emptied :
    emptied.ListsNothing ∧
      (emptied.toggled 5).scope? = some (addresses (.ofList [5])) ∧
        (addresses (.ofList [5])).IsProper := by
  have hToggled :
      (emptied.toggled 5).scope? = some (addresses (.ofList [5])) := by
    unfold scope?
    rw [scope?_emptied]
    decide
  have hEmpty : ¬ (addresses .empty).IsProper := fun h => h _ rfl rfl
  refine ⟨?_, hToggled, ?_⟩
  · by_contra hLists
    exact hEmpty ((isProper_iff_of_scope? scope?_emptied).mpr hLists)
  · exact (isProper_iff_of_scope? hToggled).mpr not_false

/- Not everything that is handed out is proper: that is not. -/
theorem not_forall_isProper :
    ¬ ∀ (o : Origin) (s : Scope), o.scope? = some s → s.IsProper := by
  intro hAll
  exact hAll emptied _ scope?_emptied _ rfl rfl

end Origin

end Scope

end Remit
