import Remit.Amount.Machine
import Remit.Proofs.Amount.Sum

/-
  This file shows that the arithmetic of amounts on machine
  words comes to what it comes to on exact counts. No addition,
  multiplication or division that it is made of wraps around or
  stops the machine, whatever the factors and ratios are.

  Key definitions include:
    * `Machine.IsWordOf`

  Key theorems include:
    * `Machine.isWordOf_add?`, `Machine.isWordOf_mul?`
    * `Machine.fitted_eq`
    * `Machine.add_word`
    * `Machine.sum_word`
    * `Machine.scaleFloor_word`
    * `Machine.scaleRound_word`
-/

namespace Remit

------------------------------------------------------------
-- Amounts in Words
------------------------------------------------------------

namespace Amount

/- Every amount fits a word. -/
theorem units_lt
    (a : Amount) :
    a.units < 2 ^ 64 :=
  Nat.lt_of_le_of_lt a.units_le (by decide)

/- The word of an amount denotes its units. -/
@[simp]
theorem toNat_word
    (a : Amount) :
    a.word.toNat = a.units := by
  rw [word, BitVec.toNat_ofNat, Nat.mod_eq_of_lt a.units_lt]

end Amount

namespace Machine

------------------------------------------------------------
-- Words of Numbers
------------------------------------------------------------

variable {width n : Nat} {o : Option (BitVec width)}

/- There is a word exactly if a number fits it, and it is of that. -/
def IsWordOf (n : Nat) (o : Option (BitVec width)) : Prop :=
  ∀ z, o = some z ↔ n = z.toNat

/- A number that fits has a word. -/
theorem IsWordOf.eq_some
    (h : IsWordOf n o)
    (hFits : n < 2 ^ width) :
    o = some (BitVec.ofNat width n) := by
  apply (h _).mpr
  rw [BitVec.toNat_ofNat, Nat.mod_eq_of_lt hFits]

/- The word of a number that fits denotes it. -/
theorem IsWordOf.exists_of_lt
    (h : IsWordOf n o)
    (hFits : n < 2 ^ width) :
    ∃ z, o = some z ∧ z.toNat = n := by
  have hSome := h.eq_some hFits
  exact ⟨_, hSome, ((h _).mp hSome).symm⟩

/- A number that does not fit has none. -/
theorem IsWordOf.eq_none
    (h : IsWordOf n o)
    (hLarge : 2 ^ width ≤ n) :
    o = none := by
  cases ho : o with
  | none => rfl
  | some z =>
      have hExact := (h z).mp ho
      have hLess := z.isLt
      omega

/- With the greatest word for all that does not fit, the lesser counts. -/
theorem IsWordOf.toNat_getD
    (h : IsWordOf n o) :
    (o.getD (BitVec.allOnes width)).toNat = min n (2 ^ width - 1) := by
  have hPos := Nat.two_pow_pos width
  by_cases hFits : n < 2 ^ width
  · rw [h.eq_some hFits, Option.getD_some, BitVec.toNat_ofNat,
      Nat.mod_eq_of_lt hFits]
    omega
  · rw [h.eq_none (Nat.le_of_not_lt hFits), Option.getD_none,
      BitVec.toNat_allOnes]
    omega

/- Whatever stands for a number as long as it fits is its word. -/
private theorem isWordOf_ite
    {p : Prop}
    [Decidable p]
    {x : BitVec width}
    (hNot : p → 2 ^ width ≤ n)
    (hFits : ¬ p → x.toNat = n) :
    IsWordOf n (if p then none else some x) := by
  intro z
  split
  · rename_i h
    have hLarge := hNot h
    have hLess := z.isLt
    simp only [reduceCtorEq, false_iff]
    omega
  · rename_i h
    rw [Option.some.injEq, ← BitVec.toNat_inj, hFits h]

------------------------------------------------------------
-- Plain Steps
------------------------------------------------------------

variable (x y : BitVec width)

/- Two words are added to the word of their sum. -/
theorem isWordOf_add? :
    IsWordOf (x.toNat + y.toNat) (add? x y) :=
  isWordOf_ite (fun h => of_decide_eq_true h)
    BitVec.toNat_add_of_not_uaddOverflow

/- Two words are multiplied to the word of their product. -/
theorem isWordOf_mul? :
    IsWordOf (x.toNat * y.toNat) (mul? x y) :=
  isWordOf_ite (fun h => of_decide_eq_true h)
    BitVec.toNat_mul_of_not_umulOverflow

/- Division by any word but zero never fails. -/
theorem div?_of_ne
    (hDivisor : y ≠ 0) :
    div? x y = some (x / y) :=
  if_neg hDivisor

/- A difference of words is stopped at zero. -/
theorem toNat_subStopped :
    (subStopped x y).toNat = x.toNat - y.toNat := by
  unfold subStopped
  split
  · rename_i hBelow
    have hLess : x.toNat < y.toNat := of_decide_eq_true hBelow
    rw [Nat.sub_eq_zero_of_le (Nat.le_of_lt hLess)]
    exact BitVec.toNat_zero
  · rename_i hNot
    exact BitVec.toNat_sub_of_not_usubOverflow hNot

/- A word denotes the same number as a double word. -/
@[simp]
theorem toNat_widen
    (x : Word) :
    (widen x).toNat = x.toNat :=
  BitVec.toNat_setWidth_of_le (by decide)

/- A double word is narrowed to the word of its number. -/
theorem isWordOf_narrow?
    (x : DoubleWord) :
    IsWordOf x.toNat (narrow? x) := by
  have hFits : x ≤ widen (BitVec.allOnes 64) ↔ x.toNat < 2 ^ 64 := by
    rw [BitVec.le_def, toNat_widen, BitVec.toNat_allOnes]
    omega
  unfold narrow?
  rw [← ite_not]
  apply isWordOf_ite
  · intro h
    rw [hFits] at h
    exact Nat.le_of_not_lt h
  · intro h
    rw [Decidable.not_not, hFits] at h
    rw [BitVec.toNat_setWidth, Nat.mod_eq_of_lt h]

------------------------------------------------------------
-- Words Within the Supply
------------------------------------------------------------

/- A word that is checked is an amount of so many units, or none. -/
theorem checked_eq
    (x : Word) :
    checked x = (Amount.ofUnits x.toNat).map Amount.word := by
  have hWord : ¬ Numeral.wordMax < x.toNat := by
    rw [Numeral.wordMax_lt_iff]
    exact Nat.not_le.mpr x.isLt
  have hSupply : supply < x ↔ Amount.cap < x.toNat := by
    rw [BitVec.lt_def]
    exact Iff.of_eq (congrArg (· < x.toNat) (Amount.toNat_word _))
  unfold checked
  split
  · rename_i hAbove
    rw [hSupply] at hAbove
    rw [Amount.ofUnits, if_neg hWord,
      dif_neg (Nat.not_le.mpr hAbove)]
    rfl
  · rename_i hNot
    rw [hSupply] at hNot
    rw [Amount.ofUnits_of_le (Nat.le_of_not_lt hNot)]
    apply congrArg Except.ok
    apply BitVec.eq_of_toNat_eq
    rw [Amount.toNat_word]

/- What a number has come to is the amount of so many units, or none. -/
theorem fitted_eq
    {o : Option Word}
    (h : IsWordOf n o) :
    fitted o = (Amount.ofUnits n).map Amount.word := by
  by_cases hFits : n < 2 ^ 64
  · rw [h.eq_some hFits]
    change checked _ = _
    rw [checked_eq, BitVec.toNat_ofNat, Nat.mod_eq_of_lt hFits]
  · have hLarge := Nat.le_of_not_lt hFits
    rw [h.eq_none hLarge, Amount.ofUnits,
      if_pos (Numeral.wordMax_lt_iff.mpr hLarge)]
    rfl

/- A stopped word is the amount of a number, stopped at the supply. -/
theorem capped_getD_eq
    {o : Option Word}
    (h : IsWordOf n o) :
    capped (o.getD (BitVec.allOnes 64)) = (Amount.capped n).word := by
  have hUnits := h.toNat_getD
  have hSupply : supply.toNat = Amount.cap := Amount.toNat_word _
  have hCap : Amount.cap < 2 ^ 64 := by decide
  apply BitVec.eq_of_toNat_eq
  rw [Amount.toNat_word, Amount.units_capped]
  unfold capped
  split
  · rename_i hAbove
    rw [BitVec.lt_def] at hAbove
    omega
  · rename_i hNot
    rw [BitVec.lt_def] at hNot
    omega

------------------------------------------------------------
-- Sums and Multiples
------------------------------------------------------------

variable (a b : Amount)

/- Amounts are added on words as they are on counts. -/
theorem add_word :
    add a.word b.word = (a.add b).map Amount.word := by
  have hSum := isWordOf_add? a.word b.word
  rw [Amount.toNat_word, Amount.toNat_word] at hSum
  exact fitted_eq hSum

/- So they are if the sum is stopped at the supply. -/
theorem addCapped_word :
    addCapped a.word b.word = (a.addCapped b).word := by
  have hSum := isWordOf_add? a.word b.word
  rw [Amount.toNat_word, Amount.toNat_word] at hSum
  exact capped_getD_eq hSum

/- So they are subtracted. -/
theorem subStopped_word :
    subStopped a.word b.word = (a.subFloored b).word := by
  apply BitVec.eq_of_toNat_eq
  rw [toNat_subStopped, Amount.toNat_word, Amount.toNat_word,
    Amount.toNat_word, Amount.units_subFloored]

/- So they are multiplied by a word. -/
theorem mulCapped_word
    (factor : Word) :
    mulCapped a.word factor = (a.mulCapped factor.toNat).word := by
  have hProduct := isWordOf_mul? a.word factor
  rw [Amount.toNat_word] at hProduct
  exact capped_getD_eq hProduct

/-
  Amounts are summed up on words as they are on counts. The
  induction is on the amounts for any start.
-/
private theorem foldlM_add_word
    (amounts : List Amount)
    (start : Amount) :
    (amounts.map Amount.word).foldlM add start.word =
      (amounts.foldlM Amount.add start).map Amount.word := by
  induction amounts generalizing start with
  | nil => rfl
  | cons b amounts ih =>
      rw [List.map_cons, List.foldlM_cons, List.foldlM_cons, add_word]
      cases start.add b with
      | error e => rfl
      | ok c => exact ih c

/- Amounts are summed up on words as they are on counts. -/
theorem sum_word
    (amounts : List Amount) :
    sum (amounts.map Amount.word) =
      (Amount.sum amounts).map Amount.word :=
  foldlM_add_word amounts .zero

------------------------------------------------------------
-- Ratios
------------------------------------------------------------

variable (numer : Word) {denom : Word}

/-
  The product of an amount and a word leaves room in a double
  word: another word can be added to it.
-/
theorem mul_add_lt
    (other : Word) :
    a.units * numer.toNat + other.toNat < 2 ^ 128 := by
  have hProduct :
      a.units * numer.toNat ≤ (2 ^ 64 - 1) * (2 ^ 64 - 1) :=
    Nat.mul_le_mul (Nat.le_pred_of_lt a.units_lt)
      (Nat.le_pred_of_lt numer.isLt)
  have hLess := other.isLt
  omega

/- An amount and a word are multiplied in double words. -/
theorem mul?_widen :
    ∃ product,
      mul? (widen a.word) (widen numer) = some product ∧
        product.toNat = a.units * numer.toNat := by
  have hProduct := isWordOf_mul? (widen a.word) (widen numer)
  rw [toNat_widen, toNat_widen, Amount.toNat_word] at hProduct
  exact hProduct.exists_of_lt (mul_add_lt a numer 0)

/- A word other than zero is no zero as a double word. -/
theorem widen_ne_zero
    {x : Word}
    (h : x ≠ 0) :
    widen x ≠ 0 := by
  intro hZero
  apply h
  apply BitVec.eq_of_toNat_eq
  rw [← toNat_widen, hZero]
  rfl

/- A quotient by a word is narrowed to the amount of the exact one. -/
theorem fitted_div
    (x : DoubleWord) :
    fitted (narrow? (x / widen denom)) =
      (Amount.ofUnits (x.toNat / denom.toNat)).map Amount.word := by
  rw [fitted_eq (isWordOf_narrow? _), BitVec.toNat_udiv, toNat_widen]

/- Amounts are scaled down on words as they are on counts. -/
theorem scaleFloor_word
    (denom : Word) :
    scaleFloor a.word numer denom =
      some
        ((a.scaleFloor ⟨numer.toNat, denom.toNat⟩).map Amount.word) := by
  by_cases hDenom : denom = 0
  · subst hDenom
    rfl
  · have hNot : ¬ denom.toNat = 0 := by
      intro h
      exact hDenom (BitVec.eq_of_toNat_eq h)
    rcases mul?_widen a numer with ⟨product, hSome, hUnits⟩
    rw [scaleFloor, if_neg hDenom, hSome, Amount.scaleFloor,
      if_neg hNot, ← hUnits, ← fitted_div]
    change (div? product (widen denom)).bind _ = _
    rw [div?_of_ne _ _ (widen_ne_zero hDenom)]
    rfl

/- Amounts are scaled to the nearest on words as they are on counts. -/
theorem scaleRound_word
    (denom : Word) :
    scaleRound a.word numer denom =
      some
        ((a.scaleRound ⟨numer.toNat, denom.toNat⟩).map Amount.word) := by
  by_cases hDenom : denom = 0
  · subst hDenom
    rfl
  · have hNot : ¬ denom.toNat = 0 := by
      intro h
      exact hDenom (BitVec.eq_of_toNat_eq h)
    rcases mul?_widen a numer with ⟨product, hSome, hUnits⟩
    have hHalf : (widen denom / 2).toNat = denom.toNat / 2 := by
      rw [BitVec.toNat_udiv, toNat_widen]
      rfl
    have hSum := isWordOf_add? product (widen denom / 2)
    have hRoom := mul_add_lt a numer denom
    rw [hUnits, hHalf] at hSum
    rcases hSum.exists_of_lt (by omega) with
      ⟨raised, hRaised, hRaisedUnits⟩
    rw [scaleRound, if_neg hDenom, hSome, Amount.scaleRound,
      if_neg hNot, ← hRaisedUnits, ← fitted_div]
    change
      (add? product (widen denom / 2)).bind
        (fun raised => (div? raised (widen denom)).bind _) = _
    rw [hRaised]
    change (div? raised (widen denom)).bind _ = _
    rw [div?_of_ne _ _ (widen_ne_zero hDenom)]
    rfl

end Machine

end Remit
