import Remit.Draft
import Remit.Engine.Error
import Remit.Fee

/-
  This file defines what a flow asks of a wallet engine, and
  what an engine is.

  Key definitions include:
    * `Signed`
    * `CallKind`
    * `EngineCall`
    * `EngineCall.Reply`
    * `Engine`
-/

namespace Remit

/- A transaction that was signed, with the identifier it will have. -/
structure Signed where
  txid : String
  raw : Bytes
deriving DecidableEq, Repr

/- The kinds of calls. -/
inductive CallKind where
| bounds
| sources
| balance
| build
| sign
| broadcast
deriving DecidableEq, Repr

namespace CallKind

/- Every kind of call. -/
def all : List CallKind :=
  [bounds, sources, balance, build, sign, broadcast]

/- The name of a kind of call. -/
def name : CallKind → String
| bounds => "fee_info"
| sources => "sources"
| balance => "balances"
| build => "build"
| sign => "sign"
| broadcast => "broadcast"

end CallKind

/- What is asked of an engine. -/
inductive EngineCall where
| bounds
| sources
| balance (scope : Scope)
| build (outputs : List Output) (scope : Scope) (fee : Amount)
| sign (draft : Draft) (scope : Scope)
| broadcast (signed : Signed)
deriving DecidableEq, Repr

namespace EngineCall

/- What an engine replies with, unless it fails. -/
def Answer : EngineCall → Type
| bounds => FeeBounds
| sources => List Source
| balance _ => Balance
| build _ _ _ => Draft
| sign _ _ => Signed
| broadcast _ => String

/- The reply to a call. -/
abbrev Reply (call : EngineCall) : Type :=
  Except EngineError call.Answer

/- The kind of a call. -/
def kind : EngineCall → CallKind
| bounds => .bounds
| sources => .sources
| balance _ => .balance
| build _ _ _ => .build
| sign _ _ => .sign
| broadcast _ => .broadcast

/- The scope that a call is about. -/
def scope? : EngineCall → Option Scope
| balance scope => some scope
| build _ scope _ => some scope
| sign _ scope => some scope
| _ => none

end EngineCall

/-
  An engine takes note of a call when it is made, may keep it
  waiting, and then replies.
-/
structure Engine (σ : Type) where
  note : EngineCall → σ → σ
  isReady : EngineCall → σ → Bool
  reply : (call : EngineCall) → σ → call.Reply

end Remit
