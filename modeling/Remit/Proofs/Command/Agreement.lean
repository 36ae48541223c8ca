import Remit.Command.Program
import Remit.Proofs.Command.Composing
import Remit.Proofs.Wallet.Selection

/-
  This file proves that the two operations agree. A payment that
  is found valid is built when nobody has to be asked, and one
  that is not fails in the same way, as the wallet selects
  inputs exactly when the balance tells that they suffice. The
  draft that is built says what was reported before.

  Key definitions include:
    * `Command.IsDraftOf`
    * `Command.Agree`

  Key theorems include:
    * `Command.IsReady.exists_build`
    * `Command.agree_validate_review`
    * `Command.exists_validate_waiting`
-/

namespace Remit.Command

------------------------------------------------------------
-- Building
------------------------------------------------------------

variable {w : Wallet} {config : Config} {f : Flow} {r : Request}

/-
  The wallet builds a draft for a flow that is ready and whose
  composition is valid.
-/
theorem IsReady.exists_build
    (h : IsReady w config f)
    (now : Time)
    (hValid : f.composition.validate = .ok r) :
    ∃ draft,
      w.build now r.payment.outputs r.payment.scope r.payment.fee =
        .ok draft := by
  rcases Composition.validate_eq_ok_iff.mp hValid with ⟨hEmpty, rfl⟩
  have hSound := Composition.sound_of_reachable h.reachable
  have hAffordable :=
    ((Composition.isEmpty_problems_iff hSound).mp hEmpty).2.2
  rw [h.balance] at hAffordable
  apply Wallet.exists_build_iff.mpr
  change
    Amount.total (f.composition.outputs.map Output.amount) +
        f.composition.fee.units ≤
      (f.composition.scope.balance w.sources).spendable.units
  rw [Composition.amounts_outputs]
  exact hAffordable

/- A review that is carried out holds the draft that was built. -/
theorem IsReady.carry_review
    (h : IsReady w config f)
    {now : Time}
    (hValid : f.composition.validate = .ok r)
    {draft : Draft}
    (hBuilt :
      w.build now r.payment.outputs r.payment.scope r.payment.fee =
        .ok draft) :
    carry w now f .review =
      .ok
        { f.forget with
          stage := .reviewing
          draft := some (draft.stamped r.fingerprint) } := by
  have hReview := Flow.review_eq_waiting h.stage hValid
  rw [Flow.publish_of_unsubscribed (f := { f.forget with stage := .building })
    h.unseen] at hReview
  have hRun :
      (f.perform .review).run (w.engine now) () =
        (Flow.built { f.forget with stage := .building } r
          (w.build now r.payment.outputs r.payment.scope
            r.payment.fee)).run (w.engine now) () := by
    change f.review.run _ _ = _
    rw [hReview]
    rfl
  have hEnded :
      Flow.built { f.forget with stage := .building } r (.ok draft) =
        .ended
          { f.forget with
            stage := .reviewing
            draft := some (draft.stamped r.fingerprint) }
          .done := by
    change
      Flow.endAt
          { f.forget with
            stage := .building
            draft := some (draft.stamped r.fingerprint) }
          .reviewing .done = _
    rw [Flow.endAt_eq_ended (of_decide_eq_true rfl)]
    exact
      congrArg (Progress.ended · .done)
        (Flow.publish_of_unsubscribed h.unseen)
  rw [hBuilt, hEnded] at hRun
  unfold carry
  rw [hRun]
  rfl

------------------------------------------------------------
-- Agreement
------------------------------------------------------------

/-
  A draft says what was reported of a composition: the fee that
  was selected, the total of the amounts, and with both the
  total that goes out; and the inputs are worth that total and
  the change together.
-/
structure IsDraftOf (draft : Draft) (c : Composition) : Prop where
  fee : draft.fee = c.fee
  amount : draft.totalAmount = c.outcome.totals.amount
  out :
    draft.totalAmount.units + draft.fee.units =
      c.outcome.totals.out.units
  inputs :
    draft.inputTotal.units =
      c.outcome.totals.out.units + draft.change.units

/-
  What two operations come to agrees: both report the same
  composition, the latter with a draft of it, or both fail in
  the same way, and with no internal error.
-/
inductive Agree :
    Except CommandError Report → Except CommandError Report → Prop
| done
    (v r : Report)
    (draft : Draft)
    (hComposition : r.composition = v.composition)
    (hDraft : r.draft = some draft)
    (hSame : IsDraftOf draft v.composition) :
    Agree (.ok v) (.ok r)
| failed
    (e : CommandError)
    (hExit : exitCode (.error e) ≠ Exit.internal.code) :
    Agree (.error e) (.error e)

/- The draft that was built says what was reported before. -/
theorem IsReady.isDraftOf
    (h : IsReady w config f)
    {now : Time}
    (hValid : f.composition.validate = .ok r)
    {draft : Draft}
    (hBuilt :
      w.build now r.payment.outputs r.payment.scope r.payment.fee =
        .ok draft) :
    IsDraftOf draft f.composition := by
  have hSound := Composition.sound_of_reachable h.reachable
  have hBuiltFor := Wallet.isBuiltFor_of_build hBuilt
  have hTotal := (Composition.isPaidBy_of_validate hSound hValid).total
  rcases Composition.validate_eq_ok_iff.mp hValid with ⟨hEmpty, rfl⟩
  have hPayable :=
    ((Composition.isEmpty_problems_iff hSound).mp hEmpty).2.1
  have hRows :
      ∀ row ∈ f.composition.rows, row.IsValid config.network :=
    fun row hRow => Recipient.isValid_iff_isPayable.mpr (hPayable row hRow)
  have hOut :
      draft.totalAmount.units + draft.fee.units =
        f.composition.outcome.totals.out.units := by
    rw [hBuiltFor.total, hBuiltFor.fee_eq]
    exact hTotal.symm
  refine
    { fee := hBuiltFor.fee_eq
      amount := ?_
      out := hOut
      inputs := hOut ▸ hBuiltFor.inputs }
  apply Amount.ext
  have hCap := draft.totalAmount.units_le
  rw [hSound.outcome_eq]
  change _ = f.composition.inputs.totals.amount.units
  rw [Inputs.units_totals_amount,
    Composition.validAmounts_of_valid hSound hRows,
    ← Composition.amounts_outputs]
  change draft.totalAmount.units = min (Amount.total
    (f.composition.payment.outputs.map Output.amount)) _
  rw [← hBuiltFor.total]
  omega

/- What a checked composition comes to. -/
theorem outcome_check
    (c : Composition)
    (rest : Session)
    (answer : Consent) :
    (check c rest).outcome answer =
      match c.validate with
      | .ok _ => rest.outcome answer
      | .error problems => .error (.send (.problems problems)) := by
  unfold check
  cases c.validate <;> rfl

/- An expected failure does not end with the internal number. -/
theorem agree_failed
    {e : SendError}
    (h : IsExpected e) :
    Agree (.error (.send e)) (.error (.send e)) := by
  have hCode : ∀ x : Exit, x ≠ .internal → x.code ≠ Exit.internal.code := by
    intro x hx
    cases x <;> first | decide | exact absurd rfl hx
  exact .failed (.send e) (hCode _ h)

/-
  For any files and any order, at any times and whatever would
  be answered, the check of a payment and its review without a
  question agree.
-/
theorem agree_validate_review
    (files : Files)
    (now now' : Time)
    (force : Bool)
    (order : Order)
    (answer answer' : Consent) :
    Agree
      ((perform files now force order .validate).outcome answer)
      ((perform files now' true order .review).outcome answer') := by
  change
    Agree ((validate files now order).outcome answer)
      ((review files now' true order).outcome answer')
  unfold validate review
  rw [compose_now files now' now]
  cases hComposed : compose files now order with
  | error e =>
      exact agree_failed (failsExpectedly_compose files now order e hComposed)
  | ok composed =>
      rcases isReady_of_compose hComposed with ⟨n, hReady⟩
      change Agree ((check _ _).outcome answer) ((check _ _).outcome answer')
      rw [outcome_check, outcome_check]
      cases hValid : composed.flow.composition.validate with
      | error problems => exact agree_failed (isExpected_problems problems)
      | ok r =>
          rcases hReady.exists_build now' hValid with ⟨draft, hBuilt⟩
          have hReview := hReady.carry_review hValid hBuilt
          change
            Agree (.ok (report composed.flow none)) (build now' composed)
          unfold build
          rw [hReview]
          have hDraft := hReady.isDraftOf hValid hBuilt
          exact
            .done _ _ (draft.stamped r.fingerprint) rfl rfl
              ⟨hDraft.fee, hDraft.amount, hDraft.out, hDraft.inputs⟩

/- One recipient, and a wallet in which half a coin waits. -/
def waitingFiles : Files :=
  Files.ofList
    [("pay.csv",
        Utf8.encode
          ("address,amount\n"
            ++ "zs15feryxhrdz9m6y09mr8wrerwzgj6f8ntxvhxyrdlm5aahn0t09nl4"
            ++ "ujy8624fl6zy54klay937y,1\n")),
     ("purse.json",
        Utf8.encode
          ("\x7b\"sources\":[\x7b\"key_id\":1,\"address_id\":1,"
            ++ "\"address\":\"zs1a\",\"spendable\":200000000,"
            ++ "\"pending\":50000000\x7d]\x7d"))]

/- The order to pay that recipient out of that wallet. -/
def waitingOrder : Order where
  file := "pay.csv"
  wallet := "purse.json"
  network := "mainnet"
  scope := "auto"
  fee := "standard"

/- That payment is valid, and half a coin waits for confirmation. -/
theorem exists_validate_waiting :
    ∃ v,
      (perform waitingFiles .epoch false waitingOrder .validate).outcome
          .declined = .ok v ∧
        v.composition.balance.pending.units = 50000000 := by
  have hUnits :
      ((perform waitingFiles .epoch false waitingOrder
        .validate).outcome .declined).map
          (fun v => v.composition.balance.pending.units) =
        .ok 50000000 := by
    decide +kernel
  cases hOutcome :
      (perform waitingFiles .epoch false waitingOrder .validate).outcome
        .declined with
  | error e =>
      rw [hOutcome] at hUnits
      cases hUnits
  | ok v =>
      rw [hOutcome] at hUnits
      exact ⟨v, rfl, Except.ok.inj hUnits⟩

/-
  The check of that payment and its review both succeed, and the
  review comes with a draft of what was checked.
-/
theorem agree_validate_review_waiting :
    ∃ v r draft,
      (perform waitingFiles .epoch false waitingOrder .validate).outcome
          .declined = .ok v ∧
        (perform waitingFiles .epoch true waitingOrder .review).outcome
            .declined = .ok r ∧
        r.composition = v.composition ∧
        r.draft = some draft ∧
        IsDraftOf draft v.composition := by
  rcases exists_validate_waiting with ⟨v, hValid, _⟩
  have hAgree :=
    agree_validate_review waitingFiles .epoch .epoch false waitingOrder
      .declined .declined
  rw [hValid] at hAgree
  generalize hReview :
      (perform waitingFiles .epoch true waitingOrder .review).outcome
        .declined = outcome at hAgree
  cases hAgree with
  | done _ r draft hComposition hDraft hSame =>
      exact ⟨v, r, draft, hValid, rfl, hComposition, hDraft, hSame⟩

end Remit.Command
