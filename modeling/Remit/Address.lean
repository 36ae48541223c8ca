import Remit.Network

/-
  This file recognises shielded addresses: the lead of a
  network, the digit one, and data of a fixed alphabet within
  bounds on its length.

  Key definitions include:
    * `AddressError`
    * `Address.alphabet`
    * `Address.networkOf?`
    * `Address.check`
-/

namespace Remit

/- Why a text is not an address of the expected network. -/
inductive AddressError where
| empty
| characters
| lead
| network (expected : Network)
| size (length : Nat) (least : Nat) (most : Nat)
deriving DecidableEq, Repr

/- The wording of an address failure. -/
def AddressError.message : AddressError → String
| empty => "address is empty"
| characters => "address contains invalid characters"
| lead => "not a shielded Sapling address"
| network expected =>
    "address belongs to a different network (expected "
      ++ expected.name ++ ")"
| size length least most =>
    s!"address is {length} characters, expected {least} to {most}"

namespace Address

/- The characters of the data part. -/
def alphabet : List Char :=
  "qpzry9x8gf2tvdw0s3jn54khce6mua7l".toList

/- The least length of the data part. -/
def leastData : Nat :=
  67

/- The greatest length of the data part. -/
def mostData : Nat :=
  82

/- An address has small letters and digits of ASCII only. -/
def IsPlain (cs : List Char) : Prop :=
  ∀ c ∈ cs, c.isLower = true ∨ c.isDigit = true

instance (cs : List Char) : Decidable (IsPlain cs) :=
  List.decidableBAll _ cs

/- The data part has characters of its alphabet only. -/
def IsData (cs : List Char) : Prop :=
  ∀ c ∈ cs, c ∈ alphabet

instance (cs : List Char) : Decidable (IsData cs) :=
  List.decidableBAll _ cs

/- What an address of a network starts with. -/
def opening (n : Network) : List Char :=
  n.lead.toList ++ ['1']

/- The network whose opening the characters start with. -/
def networkOf? (cs : List Char) : Option Network :=
  [Network.regtest, .testnet, .mainnet].find?
    (fun n => (opening n).isPrefixOf cs)

/- Check trimmed characters; the first thing wrong is reported. -/
def checkList (n : Network) (cs : List Char) :
    Except AddressError Unit :=
  if cs = [] then
    .error .empty
  else if ¬ IsPlain cs then
    .error .characters
  else
    match networkOf? cs with
    | none => .error .lead
    | some found =>
        let data := cs.drop (opening n).length
        if found ≠ n then
          .error (.network n)
        else if ¬ IsData data then
          .error .characters
        else if leastData ≤ data.length ∧ data.length ≤ mostData then
          .ok ()
        else
          .error
            (.size cs.length
              ((opening n).length + leastData)
              ((opening n).length + mostData))

/- Check a text, blanks at its ends aside. -/
def check (n : Network) (s : String) : Except AddressError Unit :=
  checkList n (Text.trimList s.toList)

end Address

end Remit
