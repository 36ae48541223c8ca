import Remit.Proofs.Command.Agreement
import Remit.Proofs.Json.Fields

/-
  This file compares what a program reads of a payment that is
  checked with what it reads of the same payment when it is
  reviewed. Every field is read the same but one: where the
  check tells the funds that wait for confirmation, the review
  tells the draft, so that those funds are not told at all.

  Key definitions include:
    * `Command.compositionKeys`
    * `Command.Tells`
    * `Command.ReplacesPending`

  Key theorems include:
    * `Command.exists_review_of_validate`
    * `Command.replacesPending_reviewed`
    * `Command.review_replaces_pending`
    * `Command.not_forall_tells`
-/

namespace Remit.Command

open Json

------------------------------------------------------------
-- Fields
------------------------------------------------------------

/- The keys at which a composition is told. -/
def compositionKeys : List String :=
  ["network", "scope", "recipients", "fee", "amountTotal", "totalOut",
   "spendable", "pending"]

/- A value tells every field of another one, and tells it the same. -/
def Tells (whole : Value) (part : Value) : Prop :=
  ∀ key value, part.get? key = some value → whole.get? key = some value

/- A composition is told at its keys and at no others. -/
theorem isSome_get?_compositionValue_iff
    (c : Composition)
    (key : String) :
    ((compositionValue c).get? key).isSome ↔ key ∈ compositionKeys :=
  Value.isSome_get?_record_iff

/- A composition tells the funds that wait for confirmation. -/
theorem get?_compositionValue_pending
    (c : Composition) :
    (compositionValue c).get? "pending" =
      some (.text c.balance.pending.fixedText) := by
  rw [compositionValue, Value.get?_record]
  rfl

/- A report with a draft tells it in the place of those funds. -/
theorem get?_result_of_draft
    {r : Report}
    {draft : Draft}
    (h : r.draft = some draft)
    (key : String) :
    r.result.get? key =
      if key = "pending" then
        some (draftValue draft)
      else
        (compositionValue r.composition).get? key := by
  unfold Report.result
  rw [h]
  change
    ((compositionValue r.composition).extend
      [("pending", draftValue draft)]).get? key = _
  unfold compositionValue
  rw [Value.extend_record]
  exact Value.get?_record_concat _

/- The document of a report tells its result. -/
theorem get?_reportDocument_result
    (r : Report) :
    (reportDocument r).get? "result" = some r.result := by
  rw [reportDocument, Value.get?_record]
  rfl

------------------------------------------------------------
-- Checks and Reviews
------------------------------------------------------------

/-
  What is read of a review is what is read of a check, except
  that it tells the draft where the check tells the funds that
  wait for confirmation.
-/
structure ReplacesPending
    (checked : Value)
    (reviewed : Value)
    (waiting : Amount)
    (draft : Draft) : Prop where
  told : ∀ key, (checked.get? key).isSome ↔ key ∈ compositionKeys
  kept : ∀ key ≠ "pending", reviewed.get? key = checked.get? key
  pending : checked.get? "pending" = some (.text waiting.fixedText)
  replaced : reviewed.get? "pending" = some (draftValue draft)

/- So the review does not tell all that the check does. -/
theorem ReplacesPending.not_tells
    {checked reviewed : Value}
    {waiting : Amount}
    {draft : Draft}
    (h : ReplacesPending checked reviewed waiting draft) :
    ¬ Tells reviewed checked := by
  intro hTells
  have hSame := hTells _ _ h.pending
  rw [h.replaced] at hSame
  cases hSame

/- A draft of a composition that is reported replaces the funds. -/
theorem replacesPending_reviewed
    {v : Report}
    (hChecked : v.draft = none)
    (draft : Draft) :
    ReplacesPending v.result
      (Report.result ⟨v.composition, .reviewing, some draft⟩)
      v.composition.balance.pending draft := by
  have hResult : v.result = compositionValue v.composition := by
    unfold Report.result
    rw [hChecked]
  rw [hResult]
  refine
    { told := isSome_get?_compositionValue_iff v.composition
      kept := ?_
      pending := get?_compositionValue_pending v.composition
      replaced := ?_ }
  · intro key hKey
    rw [get?_result_of_draft rfl, if_neg hKey]
  · rw [get?_result_of_draft rfl, if_pos rfl]

/-
  When the composition of a flow that is ready is valid, it is
  built, and reported unchanged with a draft of it.
-/
theorem IsReady.exists_build_eq
    {config : Config}
    {composed : Composed}
    {request : Request}
    (h : IsReady composed.wallet config composed.flow)
    (now : Time)
    (hValid : composed.flow.composition.validate = .ok request) :
    ∃ draft,
      build now composed =
          .ok ⟨composed.flow.composition, .reviewing, some draft⟩ ∧
        IsDraftOf draft composed.flow.composition := by
  rcases h.exists_build now hValid with ⟨draft, hBuilt⟩
  have hDraft := h.isDraftOf hValid hBuilt
  refine
    ⟨draft.stamped request.fingerprint, ?_,
      ⟨hDraft.fee, hDraft.amount, hDraft.out, hDraft.inputs⟩⟩
  unfold build
  rw [h.carry_review hValid hBuilt]
  rfl

section Outcomes

variable
  {files : Files} {now : Time} {force : Bool} {order : Order}
  {answer : Consent} {v : Report}

/-
  A payment that is found valid is reviewed when nobody has to
  be asked, with the same composition and a draft of it.
-/
theorem exists_review_of_validate
    (now' : Time)
    (answer' : Consent)
    (hValid :
      (perform files now force order .validate).outcome answer = .ok v) :
    v.draft = none ∧
      ∃ draft,
        (perform files now' true order .review).outcome answer' =
            .ok ⟨v.composition, .reviewing, some draft⟩ ∧
          IsDraftOf draft v.composition := by
  change (validate files now order).outcome answer = .ok v at hValid
  change
    _ ∧ ∃ draft,
      (review files now' true order).outcome answer' = _ ∧ _
  unfold validate at hValid
  unfold review
  rw [compose_now files now' now]
  cases hComposed : compose files now order with
  | error e =>
      rw [hComposed] at hValid
      cases hValid
  | ok composed =>
      rw [hComposed] at hValid
      rcases isReady_of_compose hComposed with ⟨n, hReady⟩
      change (check _ _).outcome answer = .ok v at hValid
      change
        _ ∧ ∃ draft, (check _ _).outcome answer' = _ ∧ _
      rw [outcome_check] at hValid ⊢
      cases hRequest : composed.flow.composition.validate with
      | error problems =>
          rw [hRequest] at hValid
          cases hValid
      | ok request =>
          rw [hRequest] at hValid
          cases hValid
          exact ⟨rfl, hReady.exists_build_eq now' hRequest⟩

end Outcomes

/-
  Whenever a payment is found valid and its review without a
  question succeeds, the document of the review tells the same
  as that of the check at every key but the one of the funds
  that wait for confirmation. There it tells the draft, so it
  never tells everything that the check does.
-/
theorem review_replaces_pending
    (files : Files)
    (now now' : Time)
    (force : Bool)
    (order : Order)
    (answer answer' : Consent)
    (v r : Report)
    (hValid :
      (perform files now force order .validate).outcome answer = .ok v)
    (hReview :
      (perform files now' true order .review).outcome answer' = .ok r) :
    ∃ draft checked reviewed,
      r.draft = some draft ∧
        IsDraftOf draft v.composition ∧
        (document .validate (.ok v)).get? "result" = some checked ∧
        (document .review (.ok r)).get? "result" = some reviewed ∧
        ReplacesPending checked reviewed v.composition.balance.pending
          draft ∧
        ¬ Tells reviewed checked := by
  rcases exists_review_of_validate now' answer' hValid with
    ⟨hNone, draft, hReviewed, hDraft⟩
  rw [hReview] at hReviewed
  cases hReviewed
  have hReplaces := replacesPending_reviewed hNone draft
  exact
    ⟨draft, _, _, rfl, hDraft, get?_reportDocument_result _,
      get?_reportDocument_result _, hReplaces, hReplaces.not_tells⟩

/-
  The review of a payment from a wallet in which half a coin
  waits tells the draft instead of that.
-/
theorem review_replaces_pending_waiting :
    ∃ v r draft checked reviewed,
      (perform waitingFiles .epoch false waitingOrder .validate).outcome
          .declined = .ok v ∧
        (perform waitingFiles .epoch true waitingOrder .review).outcome
            .declined = .ok r ∧
        v.composition.balance.pending.units = 50000000 ∧
        (document .validate (.ok v)).get? "result" = some checked ∧
        (document .review (.ok r)).get? "result" = some reviewed ∧
        ReplacesPending checked reviewed v.composition.balance.pending
          draft := by
  rcases exists_validate_waiting with ⟨v, hValid, hUnits⟩
  rcases exists_review_of_validate .epoch .declined hValid with
    ⟨_, draft, hReview, _⟩
  rcases review_replaces_pending _ _ _ _ _ _ _ v _ hValid hReview with
    ⟨d, checked, reviewed, _, _, hChecked, hReviewed, hReplaces, _⟩
  exact
    ⟨v, _, d, checked, reviewed, hValid, hReview, hUnits, hChecked,
      hReviewed, hReplaces⟩

/- A review does not always tell everything that the check does. -/
theorem not_forall_tells :
    ¬ ∀ (files : Files) (now now' : Time) (force : Bool)
        (order : Order) (answer answer' : Consent) (v r : Report)
        (checked reviewed : Value),
      (perform files now force order .validate).outcome answer =
          .ok v →
        (perform files now' true order .review).outcome answer' =
            .ok r →
          (document .validate (.ok v)).get? "result" = some checked →
            (document .review (.ok r)).get? "result" =
                some reviewed →
              Tells reviewed checked := by
  intro hAll
  rcases exists_validate_waiting with ⟨v, hValid, _⟩
  rcases exists_review_of_validate .epoch .declined hValid with
    ⟨hNone, draft, hReview, _⟩
  exact
    (replacesPending_reviewed hNone draft).not_tells
      (hAll _ _ _ _ _ _ _ _ _ _ _ hValid hReview
        (get?_reportDocument_result _) (get?_reportDocument_result _))

end Remit.Command
