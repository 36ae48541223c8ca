import Mathlib.Data.List.ModifyLast
import Remit.Proofs.Flow.Run

/-
  This file reads off a log which actions were performed, each
  with the replies that it was given, and performs them again on
  a flow. A run without subscriptions stands where its log leads
  to, and it makes one call at a time.

  Key definitions include:
    * `Turn`
    * `Progress.given`
    * `Flow.sequel`
    * `Flow.Log.turns`
    * `Flow.Log.outstanding`
    * `Flow.Log.IsSerial`
    * `Flow.ComesTo`
    * `Flow.Run.IsReplay`

  Key theorems include:
    * `Flow.Run.isReplay_ask`
    * `Flow.Run.isReplay_reply`
    * `Flow.Run.isReplay_rest`
-/

namespace Remit

------------------------------------------------------------
-- Turns
------------------------------------------------------------

/- A reply, together with the call that it answers. -/
structure Answered where
  call : EngineCall
  reply : call.Reply

/- An action, and the replies that it was given so far. -/
structure Turn where
  action : Action
  replies : List Answered

/- The turn of an action that was given one more reply. -/
def Turn.answered (t : Turn) (r : Answered) : Turn :=
  { t with replies := t.replies ++ [r] }

namespace Progress

/- Give an action a reply, which must answer the call that waits. -/
def reply? (p : Progress) (r : Answered) : Option Progress :=
  match p with
  | ended _ _ => none
  | waiting _ call resume =>
      if h : r.call = call then
        some (resume (h ▸ r.reply))
      else
        none

/- Give an action one reply after the other. -/
def given (p : Progress) (replies : List Answered) :
    Option Progress :=
  replies.foldlM reply? p

/- The call that waits for a reply, if there is one. -/
def calls : Progress → List EngineCall
| ended _ _ => []
| waiting _ call _ => [call]

/- An action that waits goes on with one more reply. -/
theorem given_concat
    {p : Progress}
    {replies : List Answered}
    {f : Flow}
    {call : EngineCall}
    {resume : call.Reply → Progress}
    (h : p.given replies = some (waiting f call resume))
    (reply : call.Reply) :
    p.given (replies ++ [⟨call, reply⟩]) = some (resume reply) := by
  unfold given at h ⊢
  rw [List.foldlM_append, h]
  simp [reply?]

end Progress

namespace Flow

/-
  Perform actions one after the other, each with the replies
  that it is given, and each to its end.
-/
def sequel : Flow → List Turn → Option Flow
| f, [] => some f
| f, t :: ts =>
    match (f.perform t.action).given t.replies with
    | some (.ended g _) => g.sequel ts
    | _ => none

/- The last of several actions is performed after the others. -/
theorem sequel_concat
    {f g h : Flow}
    {ts : List Turn}
    {t : Turn}
    {verdict : Verdict}
    (hEarlier : f.sequel ts = some g)
    (hLast :
      (g.perform t.action).given t.replies =
        some (.ended h verdict)) :
    f.sequel (ts ++ [t]) = some h := by
  induction ts generalizing f with
  | nil =>
      cases hEarlier
      simp only [List.nil_append, sequel, hLast]
  | cons s ts ih =>
      simp only [sequel] at hEarlier
      rw [List.cons_append]
      simp only [sequel]
      split at hEarlier
      · exact ih hEarlier
      · cases hEarlier

------------------------------------------------------------
-- What a Log Tells
------------------------------------------------------------

namespace Log

/- The actions that were asked for, in order, with their replies. -/
def turns : Log → List Turn
| [] => []
| .asked a :: log => turns log ++ [⟨a, []⟩]
| .replied call reply :: log =>
    (turns log).modifyLast (·.answered ⟨call, reply⟩)
| _ :: log => turns log

/- The actions that were asked for, in order. -/
def actions (log : Log) : List Action :=
  log.turns.map Turn.action

/- The calls that were not replied to, the latest first. -/
def outstanding : Log → List EngineCall
| [] => []
| .called call :: log => call :: outstanding log
| .replied call _ :: log => (outstanding log).erase call
| _ :: log => outstanding log

end Log

/-
  An event may follow while these calls are outstanding: a reply
  answers the only one, and nothing else happens meanwhile.
-/
def Event.Suits : Event → List EngineCall → Prop
| replied call _, outstanding => outstanding = [call]
| _, outstanding => outstanding = []

namespace Log

/-
  One thing happens at a time: while a call is outstanding the
  next event is its reply, and no action is begun.
-/
def IsSerial : Log → Prop
| [] => True
| e :: log => e.Suits (outstanding log) ∧ IsSerial log

------------------------------------------------------------
-- Snapshots
------------------------------------------------------------

section Shown

variable (log : Log) (f g : Flow)

/- Snapshots belong to no turn. -/
theorem turns_show :
    (log.show f g).turns = log.turns := by
  unfold Log.show
  induction g.shownSince f with
  | nil => rfl
  | cons s ss ih => exact ih

/- Snapshots call for nothing. -/
theorem outstanding_show :
    (log.show f g).outstanding = log.outstanding := by
  unfold Log.show
  induction g.shownSince f with
  | nil => rfl
  | cons s ss ih => exact ih

/- Snapshots are shown while no call is outstanding. -/
theorem isSerial_show
    (hNone : log.outstanding = [])
    (hSerial : log.IsSerial) :
    (log.show f g).IsSerial := by
  unfold Log.show
  induction g.shownSince f with
  | nil => exact hSerial
  | cons s ss ih =>
      have hShown :
          outstanding (ss.map Event.shown ++ log) = [] := by
        clear ih
        induction ss with
        | nil => exact hNone
        | cons s ss ih => exact ih
      exact ⟨hShown, ih⟩

end Shown

------------------------------------------------------------
-- Points of an Action
------------------------------------------------------------

section Reached

variable (log : Log) (a : Action) (f : Flow) (p : Progress)

/- An action that goes on belongs to the same turn. -/
theorem turns_reach :
    (log.reach a f p).turns = log.turns := by
  cases p with
  | ended g verdict => exact turns_show log f g
  | waiting g call resume => exact turns_show log f g

/- An action that goes on has at most its next call outstanding. -/
theorem outstanding_reach
    (hNone : log.outstanding = []) :
    (log.reach a f p).outstanding = p.calls := by
  cases p with
  | ended g verdict =>
      exact (outstanding_show log f g).trans hNone
  | waiting g call resume =>
      have hShown := (outstanding_show log f g).trans hNone
      exact congrArg (call :: ·) hShown

/- An action goes on while no call is outstanding. -/
theorem isSerial_reach
    (hNone : log.outstanding = [])
    (hSerial : log.IsSerial) :
    (log.reach a f p).IsSerial := by
  cases p with
  | ended g verdict =>
      refine ⟨(outstanding_show log f g).trans hNone, ?_⟩
      exact isSerial_show log f g hNone hSerial
  | waiting g call resume =>
      refine ⟨(outstanding_show log f g).trans hNone, ?_⟩
      exact isSerial_show log f g hNone hSerial

end Reached

end Log

------------------------------------------------------------
-- Replays
------------------------------------------------------------

/-
  Performing the actions of a log from a flow leads to where a
  run stands. The last action may be under way.
-/
def ComesTo (f : Flow) (ts : List Turn) : Current → Prop
| .resting g => f.sequel ts = some g
| .working a p =>
    ∃ (earlier : List Turn) (g : Flow) (replies : List Answered),
      ts = earlier ++ [⟨a, replies⟩] ∧
        f.sequel earlier = some g ∧
        (g.perform a).given replies = some p

/- The calls that an action under way waits for. -/
def Current.calls : Current → List EngineCall
| .resting _ => []
| .working _ p => p.calls

namespace Run

/-
  A run stands where the actions of its log lead to, it waits
  for a call exactly if that is outstanding, and it makes one
  call at a time.
-/
structure IsReplay (f : Flow) (r : Run) : Prop where
  comes : f.ComesTo r.log.turns r.current
  outstanding : r.log.outstanding = Current.calls r.current
  serial : r.log.IsSerial

variable {f g : Flow} {log : Log} {a : Action}

/- A flow at rest is asked for an action. -/
theorem isReplay_ask
    (h : IsReplay f ⟨.resting g, log⟩)
    (a : Action) :
    IsReplay f
      ⟨.working a (g.perform a),
        Log.reach (.asked a :: log) a g (g.perform a)⟩ := by
  have hNone : Log.outstanding (.asked a :: log) = [] :=
    h.outstanding
  refine ⟨?_, ?_, ?_⟩
  · rw [Log.turns_reach]
    exact ⟨log.turns, g, [], rfl, h.comes, rfl⟩
  · exact Log.outstanding_reach _ a g _ hNone
  · exact Log.isSerial_reach _ a g _ hNone ⟨h.outstanding, h.serial⟩

/- An action that waits goes on with a reply. -/
theorem isReplay_reply
    {call : EngineCall}
    {resume : call.Reply → Progress}
    (h : IsReplay f ⟨.working a (.waiting g call resume), log⟩)
    (reply : call.Reply) :
    IsReplay f
      ⟨.working a (resume reply),
        Log.reach (.replied call reply :: log) a g
          (resume reply)⟩ := by
  have hCall : log.outstanding = [call] := h.outstanding
  have hNone :
      Log.outstanding (.replied call reply :: log) = [] := by
    change log.outstanding.erase call = []
    rw [hCall, List.erase_cons_head]
  refine ⟨?_, ?_, ?_⟩
  · rcases h.comes with ⟨earlier, start, replies, hTurns, hStart, hGiven⟩
    rw [Log.turns_reach]
    refine ⟨earlier, start, replies ++ [⟨call, reply⟩], ?_, hStart, ?_⟩
    · change log.turns.modifyLast _ = _
      change log.turns = _ at hTurns
      rw [hTurns, List.modifyLast_concat]
      rfl
    · exact Progress.given_concat hGiven reply
  · exact Log.outstanding_reach _ a g _ hNone
  · exact Log.isSerial_reach _ a g _ hNone ⟨hCall, h.serial⟩

/- An action that has ended leaves its flow at rest. -/
theorem isReplay_rest
    {verdict : Verdict}
    (h : IsReplay f ⟨.working a (.ended g verdict), log⟩) :
    IsReplay f ⟨.resting g, log⟩ where
  comes := by
    rcases h.comes with ⟨earlier, start, replies, hTurns, hStart, hGiven⟩
    change f.sequel log.turns = some g
    change log.turns = _ at hTurns
    rw [hTurns]
    exact sequel_concat hStart hGiven
  outstanding := h.outstanding
  serial := h.serial

end Run

end Flow

end Remit
