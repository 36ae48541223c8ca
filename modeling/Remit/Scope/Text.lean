import Remit.Scope.Basic
import Remit.Text.Blank
import Remit.Text.Numeral
import Remit.Text.Search

/-
  This file writes scopes as texts and reads them back. A text
  may have blanks around its parts, and signs and parts that
  the written form does not have.

  Key definitions include:
    * `Scope.text`
    * `Scope.ofText`
-/

namespace Remit.Scope

/- The identifiers of a set, separated by commas. -/
def idsText (ids : IdSet) : String :=
  String.intercalate ","
    (ids.toList.map (fun id => Numeral.ofInt id.toInt))

/- The written form of a scope. -/
def text : Scope → String
| auto => "auto"
| key id => "key:" ++ Numeral.ofInt id.toInt
| addresses ids => "addresses:" ++ idsText ids

/- The identifiers between commas; blank parts count for nothing. -/
def readIds? (cs : List Char) : Option (List Int64) :=
  (((Text.split ',' cs).map Text.trimList).filter (· ≠ [])).mapM
    Numeral.signed?

/- Read the trimmed characters of a scope. -/
def readList (cs : List Char) : Except ScopeError Scope :=
  let failure := ScopeError.unreadable (String.ofList cs)
  if cs.map Char.toLower = "auto".toList then
    .ok auto
  else
    match Text.after? "key:".toList cs with
    | some rest =>
        match Numeral.signed? (Text.trimList rest) with
        | some id => .ok (key id)
        | none => .error failure
    | none =>
        match Text.after? "addresses:".toList cs with
        | some rest =>
            match readIds? rest with
            | some ids => ofAddresses ids
            | none => .error failure
        | none => .error failure

/- The scope that a text names. -/
def ofText (s : String) : Except ScopeError Scope :=
  readList (Text.trimList s.toList)

end Remit.Scope
