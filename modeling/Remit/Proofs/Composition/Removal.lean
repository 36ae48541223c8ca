import Remit.Proofs.Composition.Diagnosis
import Remit.Proofs.Fee.Growth

/-
  This file compares a composition with what it is without a row
  that cannot be paid. Such a row is paid nothing, but it counts
  for the fee: funds that are lacking without it are lacking
  with it, and it makes a difference exactly when the balance
  covers the smaller fee and not the larger one.

  Key definitions include:
    * `Composition.LacksFunds`
    * `Composition.Spares`

  Key theorems include:
    * `Composition.lacksFunds_iff`
    * `Composition.spares_remove`
    * `Composition.not_forall_lacksFunds_remove`
-/

namespace Remit

namespace Composition

------------------------------------------------------------
-- Lack of Funds
------------------------------------------------------------

/- A composition lacks funds when a shortfall is reported. -/
def LacksFunds (c : Composition) : Prop :=
  c.outcome.shortfall ≠ none

instance (c : Composition) : Decidable c.LacksFunds := by
  unfold LacksFunds
  infer_instance

/-
  Funds are lacking exactly if some row can be paid and the
  total, stopped at the supply, is more than can be spent.
-/
theorem lacksFunds_iff
    {config : Config}
    {c : Composition}
    (hc : Sound config c) :
    c.LacksFunds ↔
      (∃ r ∈ c.rows, r.IsPayable config.network) ∧
        c.balance.spendable.units <
          min (c.payableOut config.network) Amount.cap := by
  unfold LacksFunds
  rw [Option.ne_none_iff_exists']
  constructor
  · rintro ⟨s, hs⟩
    rcases (shortfall_eq_some_iff hc s).mp hs with
      ⟨hSome, hLess, _⟩
    exact ⟨hSome, hLess⟩
  · rintro ⟨hSome, hLess⟩
    let required : Amount :=
      ⟨min (c.payableOut config.network) Amount.cap,
        Nat.min_le_right _ _⟩
    refine ⟨⟨required, c.balance.spendable, c.balance.pending⟩, ?_⟩
    exact
      (shortfall_eq_some_iff hc _).mpr
        ⟨hSome, hLess, rfl, rfl, rfl⟩

------------------------------------------------------------
-- Removing a Row
------------------------------------------------------------

/- A row that is there can be removed. -/
theorem enter_remove_eq_ok
    {c : Composition}
    {row : Nat}
    (h : row < c.rows.length) :
    c.enter (.remove row) = .ok (c.setRows (c.rows.eraseIdx row)) :=
  if_pos h

/- Without a row that cannot be paid, the same rows can be. -/
theorem payableRows_remove
    {n : Network}
    {c : Composition}
    {row : Nat}
    {r : Recipient}
    (hRow : c.rows[row]? = some r)
    (hUnpayable : ¬ r.IsPayable n) :
    (c.setRows (c.rows.eraseIdx row)).payableRows n =
      c.payableRows n := by
  rcases List.getElem?_eq_some_iff.mp hRow with ⟨hLess, hGet⟩
  have hSplit :
      c.rows = c.rows.take row ++ r :: c.rows.drop (row + 1) := by
    rw [← hGet, List.getElem_cons_drop, List.take_append_drop]
  change (c.rows.eraseIdx row).filter _ = c.rows.filter _
  rw [List.eraseIdx_eq_take_drop_succ]
  conv_rhs => rw [hSplit]
  rw [List.filter_append, List.filter_append,
    List.filter_cons_of_neg (by simpa using hUnpayable)]

/- A composition pays no more for fewer rows. -/
theorem fee_setRows_le
    {config : Config}
    {c : Composition}
    {rows : List Recipient}
    (hc : Sound config c)
    (h : rows.length ≤ c.rows.length) :
    (c.setRows rows).fee ≤ c.fee := by
  unfold fee
  rw [hc.outcome_eq]
  exact FeeSelection.selected_mono _ _ _ h

/-
  What a composition is spared without a row that cannot be
  paid. The same rows can be paid, for a fee that is no greater.
  Funds that are lacking were lacking before. As long as the fee
  is the same, so is whether funds are lacking; otherwise they
  were lacking before only if some row can be paid and the
  balance covers the total with the fee as it is, but not with
  the fee as it was.
-/
structure Spares (n : Network) (c d : Composition) : Prop where
  payableRows_eq : d.payableRows n = c.payableRows n
  fee_le : d.fee ≤ c.fee
  lacksFunds : d.LacksFunds → c.LacksFunds
  lacksFunds_of_fee_eq :
    d.fee = c.fee → (c.LacksFunds ↔ d.LacksFunds)
  lacksFunds_before_iff :
    c.LacksFunds ∧ ¬ d.LacksFunds ↔
      (∃ r ∈ c.rows, r.IsPayable n) ∧
        min (d.payableOut n) Amount.cap ≤
          c.balance.spendable.units ∧
        c.balance.spendable.units < min (c.payableOut n) Amount.cap

/-
  Compositions that differ in rows that cannot be paid are
  compared by their fees.
-/
theorem spares_of_payableRows
    {config : Config}
    {c d : Composition}
    (hc : Sound config c)
    (hd : Sound config d)
    (hBalance : d.balance = c.balance)
    (hRows :
      d.payableRows config.network = c.payableRows config.network)
    (hFee : d.fee ≤ c.fee) :
    c.Spares config.network d := by
  have hSome :
      (∃ r ∈ d.rows, r.IsPayable config.network) ↔
        ∃ r ∈ c.rows, r.IsPayable config.network := by
    rw [← payableRows_ne_nil_iff, ← payableRows_ne_nil_iff, hRows]
  have hLacks := lacksFunds_iff hc
  have hLacks' := lacksFunds_iff hd
  have hOut :
      d.payableOut config.network + c.fee.units =
        c.payableOut config.network + d.fee.units := by
    unfold payableOut
    rw [hRows]
    omega
  rw [hSome, hBalance] at hLacks'
  rw [Amount.le_iff] at hFee
  have hMin :
      min (d.payableOut config.network) Amount.cap ≤
        min (c.payableOut config.network) Amount.cap := by
    omega
  refine ⟨hRows, hFee, ?_, ?_, ?_⟩
  · rw [hLacks, hLacks']
    rintro ⟨hPayable, hLess⟩
    exact ⟨hPayable, Nat.lt_of_lt_of_le hLess hMin⟩
  · intro hSame
    have hEq :
        d.payableOut config.network = c.payableOut config.network := by
      rw [hSame] at hOut
      omega
    rw [hLacks, hLacks', hEq]
  · rw [hLacks, hLacks']
    constructor
    · rintro ⟨⟨hPayable, hLess⟩, hCovered⟩
      have hCovered := not_and.mp hCovered hPayable
      exact ⟨hPayable, Nat.not_lt.mp hCovered, hLess⟩
    · rintro ⟨hPayable, hCovered, hLess⟩
      exact
        ⟨⟨hPayable, hLess⟩, fun h => Nat.not_lt.mpr hCovered h.2⟩

/-
  A row of a composition that is at fault for something can be
  removed, and this spares nothing but what it adds to the fee.
-/
theorem spares_remove
    {config : Config}
    {c : Composition}
    {row : Nat}
    {r : Recipient}
    {fault : Fault}
    (hc : Reachable config c)
    (hRow : c.rows[row]? = some r)
    (hFault : r.IsAtFault config.network fault) :
    ∃ d, c.enter (.remove row) = .ok d ∧
      c.Spares config.network d := by
  have hSound := sound_of_reachable hc
  have hLess : row < c.rows.length :=
    (List.getElem?_eq_some_iff.mp hRow).1
  have hRemove := enter_remove_eq_ok hLess
  refine ⟨_, hRemove, ?_⟩
  apply spares_of_payableRows hSound (hSound.enter hRemove)
  · rfl
  · exact payableRows_remove hRow hFault.not_isPayable
  · exact fee_setRows_le hSound (List.length_eraseIdx_le c.rows row)

------------------------------------------------------------
-- A Row That Makes a Difference
------------------------------------------------------------

/- A row that is paid all but the fee of a single output. -/
def nearlyAll : Recipient :=
  { specimen with amountText := "0.9999" }

/- A row that does not say whom to pay. -/
def unaddressed : Recipient :=
  { Recipient.blank with amountText := "5" }

/- Both rows, with one coin to pay them from. -/
def tight : Composition :=
  after (Config.ofNetwork .mainnet)
    [.balance ⟨Amount.capped 100000000, .zero⟩,
     .entry (.add nearlyAll),
     .entry (.add unaddressed)]

private theorem reachable_tight :
    Reachable (Config.ofNetwork .mainnet) tight :=
  reachable_after _ _

private theorem rows_tight :
    tight.rows[1]? = some unaddressed := by
  decide +kernel

private theorem isAtFault_unaddressed :
    unaddressed.IsAtFault .mainnet .addressRequired :=
  .addressRequired (by decide +kernel)

private theorem enter_remove_tight :
    tight.enter (.remove 1) = .ok (tight.setRows [nearlyAll]) := by
  decide +kernel

/- The coin covers the first row, but not with the second one. -/
private theorem lacksFunds_tight :
    tight.LacksFunds ∧ ¬ (tight.setRows [nearlyAll]).LacksFunds := by
  decide +kernel

/- Funds that are lacking with both rows suffice for the first. -/
theorem spares_remove_tight :
    ∃ d, tight.enter (.remove 1) = .ok d ∧
      tight.Spares .mainnet d ∧ tight.LacksFunds ∧
        ¬ d.LacksFunds := by
  rcases spares_remove reachable_tight rows_tight
      isAtFault_unaddressed with
    ⟨d, hRemove, hSpares⟩
  have hSame : d = tight.setRows [nearlyAll] :=
    Except.ok.inj (hRemove.symm.trans enter_remove_tight)
  subst hSame
  exact
    ⟨_, hRemove, hSpares, lacksFunds_tight.1, lacksFunds_tight.2⟩

/- A row that is at fault can make funds lacking. -/
theorem not_forall_lacksFunds_remove :
    ¬ ∀ (config : Config) (c d : Composition) (row : Nat)
        (r : Recipient) (fault : Fault),
        Reachable config c →
          c.rows[row]? = some r →
            r.IsAtFault config.network fault →
              c.enter (.remove row) = .ok d →
                (c.LacksFunds ↔ d.LacksFunds) := by
  intro h
  have hSame :=
    h _ tight _ 1 unaddressed .addressRequired reachable_tight
      rows_tight isAtFault_unaddressed enter_remove_tight
  exact lacksFunds_tight.2 (hSame.mp lacksFunds_tight.1)

end Composition

end Remit
