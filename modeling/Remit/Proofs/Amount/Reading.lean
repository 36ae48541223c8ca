import Mathlib.Algebra.Order.Field.Rat
import Mathlib.Tactic.NormNum
import Mathlib.Tactic.Positivity
import Mathlib.Tactic.Ring
import Remit.Proofs.Amount.Sum
import Remit.Proofs.Text.Digits
import Remit.Proofs.Text.Separated
import Remit.Amount.Decimal

/-
  This file states which texts denote amounts and shows that
  exactly these are read, as the amounts that they denote. Of
  all that may be wrong with any other text, the first in a
  fixed order is reported.

  Key definitions include:
    * `Amount.Decimal.IsSpelledBy`
    * `Amount.Decimal.value`
    * `AmountError.AppliesTo`
    * `AmountError.IsFirstOf`

  Key theorems include:
    * `Amount.Decimal.read_eq_ok_iff`
    * `Amount.Decimal.units_eq`
    * `Amount.ofText_eq_ok_iff`
    * `Amount.ofText_reads_or_refuses`
-/

namespace Remit

namespace Amount

namespace Decimal

------------------------------------------------------------
-- Decimal Numbers
------------------------------------------------------------

/-
  Characters spell a decimal number: they are its digits, at
  least one in all, with a point between the whole ones and the
  others. The point may be missing if no digits follow it.
-/
structure IsSpelledBy (d : Decimal) (cs : List Char) : Prop where
  whole : Numeral.IsDigits d.whole
  fraction : Numeral.IsDigits d.fraction
  some_digit : d.whole ≠ [] ∨ d.fraction ≠ []
  eq_or :
    cs = d.whole ++ '.' :: d.fraction ∨
      (cs = d.whole ∧ d.fraction = [])

/- The number that a decimal number is. -/
def value (d : Decimal) : ℚ :=
  Numeral.value d.whole +
    Numeral.value d.fraction / 10 ^ d.fraction.length

/- With no more than all places, the units are exact. -/
theorem units_eq
    {d : Decimal}
    (h : d.fraction.length ≤ places) :
    (d.units : ℚ) = d.value * 10 ^ 8 := by
  have hFilled :
      Numeral.value d.filled =
        Numeral.value d.fraction *
          10 ^ (places - d.fraction.length) :=
    Numeral.value_append_zeros _ _
  have hPower :
      (10 : ℚ) ^ 8 =
        10 ^ d.fraction.length *
          10 ^ (places - d.fraction.length) := by
    rw [← pow_add, Nat.add_sub_cancel' h]
    rfl
  have hPos : (10 : ℚ) ^ d.fraction.length ≠ 0 := by positivity
  unfold units value
  rw [hFilled, add_mul, hPower, div_mul_eq_mul_div, mul_div_assoc,
    mul_div_cancel_left₀ _ hPos, ← hPower]
  push_cast [unitsPerCoin, places]
  norm_num

------------------------------------------------------------
-- Parts
------------------------------------------------------------

/- What stands before the only point and behind it, if there is one. -/
inductive HasParts : List Char → List Char → List Char → Prop where
| plain
    {whole : List Char}
    (hWhole : '.' ∉ whole) :
    HasParts whole whole []
| pointed
    {whole fraction : List Char}
    (hWhole : '.' ∉ whole)
    (hFraction : '.' ∉ fraction) :
    HasParts (whole ++ '.' :: fraction) whole fraction

variable {cs whole fraction : List Char} {d : Decimal}

/- With one point at most there are such parts. -/
theorem exists_hasParts
    (h : cs.count '.' ≤ 1) :
    ∃ whole fraction, HasParts cs whole fraction := by
  by_cases hPoint : '.' ∈ cs
  · rcases List.eq_append_cons_of_mem hPoint with
      ⟨whole, fraction, rfl, hWhole⟩
    rw [List.count_append, List.count_cons_self] at h
    have hFraction : '.' ∉ fraction :=
      List.count_eq_zero.mp (by omega)
    exact ⟨whole, fraction, .pointed hWhole hFraction⟩
  · exact ⟨cs, [], .plain hPoint⟩

/- Parts belong to characters with one point at most. -/
theorem HasParts.count_le
    (h : HasParts cs whole fraction) :
    cs.count '.' ≤ 1 := by
  cases h with
  | plain hWhole =>
      rw [List.count_eq_zero_of_not_mem hWhole]
      omega
  | pointed hWhole hFraction =>
      rw [List.count_append, List.count_cons_self,
        List.count_eq_zero_of_not_mem hWhole,
        List.count_eq_zero_of_not_mem hFraction]

/- Splitting at the point finds the parts. -/
theorem HasParts.split_eq
    (h : HasParts cs whole fraction) :
    (Text.split '.' cs).headD [] = whole ∧
      (Text.split '.' cs).tail.headD [] = fraction := by
  rw [Text.split_eq_splitOn]
  cases h with
  | plain hWhole =>
      rw [List.splitOn_eq_singleton hWhole]
      exact ⟨rfl, rfl⟩
  | pointed hWhole hFraction =>
      rw [List.splitOn_append_cons_self_of_not_mem hWhole,
        List.splitOn_eq_singleton hFraction]
      exact ⟨rfl, rfl⟩

/- All characters but the point are in one of the parts. -/
theorem HasParts.mem_iff
    (h : HasParts cs whole fraction)
    {c : Char} :
    c ∈ cs ∧ c ≠ '.' ↔ c ∈ whole ∨ c ∈ fraction := by
  cases h with
  | plain hWhole =>
      simp only [List.not_mem_nil, or_false, and_iff_left_iff_imp]
      rintro hc rfl
      exact hWhole hc
  | pointed hWhole hFraction =>
      have hNe :
          ∀ part : List Char, '.' ∉ part → c ∈ part → c ≠ '.' := by
        rintro part hPart hc rfl
        exact hPart hc
      rw [List.mem_append, List.mem_cons]
      constructor
      · rintro ⟨hc | hc | hc, hPoint⟩
        · exact Or.inl hc
        · exact absurd hc hPoint
        · exact Or.inr hc
      · rintro (hc | hc)
        · exact ⟨Or.inl hc, hNe _ hWhole hc⟩
        · exact ⟨Or.inr (Or.inr hc), hNe _ hFraction hc⟩

/- Characters have such parts unless both are empty. -/
theorem HasParts.ne_nil
    (h : HasParts cs whole fraction)
    (hSome : ¬ (whole = [] ∧ fraction = [])) :
    cs ≠ [] := by
  cases h with
  | plain _ => exact fun hEmpty => hSome ⟨hEmpty, rfl⟩
  | pointed _ _ => simp

/- Digits hold no point. -/
private theorem not_mem_of_isDigits
    {part : List Char}
    (h : Numeral.IsDigits part) :
    '.' ∉ part := by
  intro hPoint
  cases h '.' hPoint

/- The parts of what spells a decimal number are its digits. -/
theorem IsSpelledBy.hasParts
    (h : d.IsSpelledBy cs) :
    HasParts cs d.whole d.fraction := by
  have hWhole := not_mem_of_isDigits h.whole
  rcases h.eq_or with hEq | ⟨hEq, hNone⟩
  · rw [hEq]
    exact .pointed hWhole (not_mem_of_isDigits h.fraction)
  · rw [hEq, hNone]
    exact .plain hWhole

/- Parts that are digits make a decimal number. -/
theorem HasParts.isSpelledBy
    (h : HasParts cs whole fraction)
    (hSome : whole ≠ [] ∨ fraction ≠ [])
    (hWhole : Numeral.IsDigits whole)
    (hFraction : Numeral.IsDigits fraction) :
    (⟨whole, fraction⟩ : Decimal).IsSpelledBy cs where
  whole := hWhole
  fraction := hFraction
  some_digit := hSome
  eq_or := by
    cases h with
    | plain _ => exact Or.inr ⟨rfl, rfl⟩
    | pointed _ _ => exact Or.inl rfl

end Decimal

end Amount

------------------------------------------------------------
-- Errors
------------------------------------------------------------

namespace AmountError

/- What has to be wrong with characters for an error to apply. -/
def AppliesTo (cs : List Char) : AmountError → Prop
| emptyInput => cs = []
| negative => cs.head? = some '-'
| malformed => 1 < cs.count '.' ∨ cs = ['.']
| nonNumeric => ∃ c ∈ cs, c ≠ '.' ∧ c.isDigit = false
| tooManyDecimals n =>
    ∃ d : Amount.Decimal,
      d.IsSpelledBy cs ∧ d.fraction.length = n ∧ 8 < n
| overflow =>
    ∃ d : Amount.Decimal,
      d.IsSpelledBy cs ∧ 2 ^ 64 ≤ d.value * 10 ^ 8
| aboveMaximum n =>
    ∃ d : Amount.Decimal,
      d.IsSpelledBy cs ∧ d.value * 10 ^ 8 = n ∧ 200000000 < d.value

/- The order in which errors are looked for. -/
def rank : AmountError → Nat
| emptyInput => 0
| negative => 1
| malformed => 2
| nonNumeric => 3
| tooManyDecimals _ => 4
| overflow => 5
| aboveMaximum _ => 6

/- No error applies that is looked for before one of this rank. -/
def NoneBefore (rank : Nat) (cs : List Char) : Prop :=
  ∀ e : AmountError, e.rank < rank → ¬ e.AppliesTo cs

/- An error applies, and none that is looked for before. -/
structure IsFirstOf (e : AmountError) (cs : List Char) : Prop where
  applies : e.AppliesTo cs
  first : NoneBefore e.rank cs

variable {cs : List Char} {e f : AmountError}

/- The errors about characters are told by their ranks. -/
private theorem eq_of_rank_eq
    (hLow : e.rank < 4)
    (h : f.rank = e.rank) :
    f = e := by
  cases e <;> cases f <;> simp_all [rank]

/- No error is looked for before the first. -/
theorem noneBefore_zero
    (cs : List Char) :
    NoneBefore 0 cs :=
  fun _ h => absurd h (Nat.not_lt_zero _)

/- None before a rank and none of it are none before the next. -/
theorem NoneBefore.succ
    {rank : Nat}
    (h : NoneBefore rank cs)
    (hRank : ∀ e : AmountError, e.rank = rank → ¬ e.AppliesTo cs) :
    NoneBefore (rank + 1) cs := by
  intro e he
  rcases Nat.lt_succ_iff_lt_or_eq.mp he with hLess | hEq
  · exact h e hLess
  · exact hRank e hEq

/- An error about characters that does not apply is passed by. -/
theorem NoneBefore.pass
    (h : NoneBefore e.rank cs)
    (hLow : e.rank < 4)
    (hNot : ¬ e.AppliesTo cs) :
    NoneBefore (e.rank + 1) cs := by
  apply h.succ
  intro f hf
  rw [eq_of_rank_eq hLow hf]
  exact hNot

end AmountError

------------------------------------------------------------
-- Reading
------------------------------------------------------------

namespace Amount

namespace Decimal

variable {cs whole fraction : List Char} {d : Decimal}

/- Characters with such parts are malformed if both are empty. -/
theorem HasParts.malformed_iff
    (h : HasParts cs whole fraction)
    (hSome : cs ≠ []) :
    AmountError.malformed.AppliesTo cs ↔
      whole = [] ∧ fraction = [] := by
  have hCount : ¬ 1 < cs.count '.' := Nat.not_lt.mpr h.count_le
  change 1 < cs.count '.' ∨ cs = ['.'] ↔ _
  simp only [hCount, false_or]
  cases h with
  | plain hWhole =>
      constructor
      · rintro rfl
        exact absurd List.mem_cons_self hWhole
      · intro hNone
        exact absurd hNone.1 hSome
  | pointed hWhole hFraction =>
      constructor
      · intro hPoint
        have hLength := congrArg List.length hPoint
        rw [List.length_append, List.length_cons,
          List.length_singleton] at hLength
        exact
          ⟨List.length_eq_zero_iff.mp (by omega),
            List.length_eq_zero_iff.mp (by omega)⟩
      · rintro ⟨rfl, rfl⟩
        rfl

/- They are numeric if both are digits. -/
theorem HasParts.nonNumeric_iff
    (h : HasParts cs whole fraction) :
    AmountError.nonNumeric.AppliesTo cs ↔
      ¬ (Numeral.IsDigits whole ∧ Numeral.IsDigits fraction) := by
  rw [← Numeral.isDigits_append]
  unfold Numeral.IsDigits AmountError.AppliesTo
  simp only [← and_assoc, h.mem_iff, ← List.mem_append, not_forall,
    Bool.not_eq_true, exists_prop]

/- Characters with such parts are read part by part. -/
theorem read_of_hasParts
    (h : HasParts cs whole fraction)
    (hSome : cs ≠ [])
    (hSign : cs.head? ≠ some '-') :
    read cs =
      if whole = [] ∧ fraction = [] then
        .error .malformed
      else if Numeral.IsDigits whole ∧ Numeral.IsDigits fraction then
        .ok ⟨whole, fraction⟩
      else
        .error .nonNumeric := by
  have hLength : ¬ 2 < (Text.split '.' cs).length := by
    have hCount := h.count_le
    rw [Text.length_split]
    omega
  unfold read
  rw [if_neg hSome, if_neg hSign]
  simp only [h.split_eq, hLength, false_or]

/- Characters with more than one point are malformed. -/
theorem read_of_points
    (h : 1 < cs.count '.')
    (hSome : cs ≠ [])
    (hSign : cs.head? ≠ some '-') :
    read cs = .error .malformed := by
  have hLength : 2 < (Text.split '.' cs).length := by
    rw [Text.length_split]
    omega
  unfold read
  rw [if_neg hSome, if_neg hSign]
  simp only [hLength, true_or, if_true]

/-
  Any characters are read as a decimal number that they spell,
  or else refused for the first error that applies. The errors
  are passed by in their order.
-/
theorem read_cases
    (cs : List Char) :
    (∃ d : Decimal, d.IsSpelledBy cs ∧ read cs = .ok d ∧
        AmountError.NoneBefore 4 cs) ∨
      ∃ e : AmountError, e.IsFirstOf cs ∧ read cs = .error e := by
  have hStart := AmountError.noneBefore_zero cs
  by_cases hEmpty : cs = []
  · exact Or.inr ⟨.emptyInput, ⟨hEmpty, hStart⟩, if_pos hEmpty⟩
  have hFilled := hStart.pass (e := .emptyInput) (by decide) hEmpty
  by_cases hSign : cs.head? = some '-'
  · refine Or.inr ⟨.negative, ⟨hSign, hFilled⟩, ?_⟩
    unfold read
    rw [if_neg hEmpty, if_pos hSign]
  have hUnsigned := hFilled.pass (e := .negative) (by decide) hSign
  by_cases hPoints : 1 < cs.count '.'
  · exact
      Or.inr
        ⟨.malformed, ⟨Or.inl hPoints, hUnsigned⟩,
          read_of_points hPoints hEmpty hSign⟩
  rcases exists_hasParts (Nat.not_lt.mp hPoints) with
    ⟨whole, fraction, hParts⟩
  have hRead := read_of_hasParts hParts hEmpty hSign
  have hMalformed := hParts.malformed_iff hEmpty
  by_cases hNone : whole = [] ∧ fraction = []
  · rw [if_pos hNone] at hRead
    exact
      Or.inr
        ⟨.malformed, ⟨hMalformed.mpr hNone, hUnsigned⟩, hRead⟩
  rw [if_neg hNone] at hRead
  rw [← hMalformed] at hNone
  have hFormed := hUnsigned.pass (e := .malformed) (by decide) hNone
  have hNonNumeric := hParts.nonNumeric_iff
  by_cases hDigits :
      Numeral.IsDigits whole ∧ Numeral.IsDigits fraction
  · rw [if_pos hDigits] at hRead
    have hNumeric :=
      hFormed.pass (e := .nonNumeric) (by decide)
        (fun h => hNonNumeric.mp h hDigits)
    have hSome : whole ≠ [] ∨ fraction ≠ [] :=
      not_and_or.mp (mt hMalformed.mpr hNone)
    exact
      Or.inl
        ⟨_, hParts.isSpelledBy hSome hDigits.1 hDigits.2, hRead,
          hNumeric⟩
  · rw [if_neg hDigits] at hRead
    exact
      Or.inr
        ⟨.nonNumeric, ⟨hNonNumeric.mpr hDigits, hFormed⟩, hRead⟩

/- What spells a decimal number is read as it. -/
theorem IsSpelledBy.read_eq
    (h : d.IsSpelledBy cs) :
    read cs = .ok d := by
  have hParts := h.hasParts
  have hDigit : ∀ c ∈ cs, c ≠ '.' → c.isDigit = true := by
    intro c hc hPoint
    rcases hParts.mem_iff.mp ⟨hc, hPoint⟩ with hMem | hMem
    · exact h.whole c hMem
    · exact h.fraction c hMem
  have hSign : cs.head? ≠ some '-' := by
    intro hHead
    cases hDigit '-' (List.mem_of_mem_head? hHead) (by decide)
  have hNone : ¬ (d.whole = [] ∧ d.fraction = []) :=
    not_and_or.mpr h.some_digit
  have hSome := hParts.ne_nil hNone
  rw [read_of_hasParts hParts hSome hSign, if_neg hNone,
    if_pos ⟨h.whole, h.fraction⟩]

/- Exactly what spells a decimal number is read as it. -/
theorem read_eq_ok_iff :
    read cs = .ok d ↔ d.IsSpelledBy cs := by
  refine ⟨fun h => ?_, IsSpelledBy.read_eq⟩
  rcases read_cases cs with ⟨found, hSpelled, hRead, _⟩ | ⟨e, _, hRead⟩
  · rw [h] at hRead
    cases hRead
    exact hSpelled
  · rw [h] at hRead
    cases hRead

/- Characters spell one decimal number at most. -/
theorem IsSpelledBy.unique
    {other : Decimal}
    (h : d.IsSpelledBy cs)
    (hOther : other.IsSpelledBy cs) :
    other = d :=
  Except.ok.inj (hOther.read_eq.symm.trans h.read_eq)

/- No error about characters applies to what spells one. -/
theorem IsSpelledBy.noneBefore
    (h : d.IsSpelledBy cs) :
    AmountError.NoneBefore 4 cs := by
  rcases read_cases cs with ⟨_, _, _, hNone⟩ | ⟨e, _, hRead⟩
  · exact hNone
  · rw [h.read_eq] at hRead
    cases hRead

------------------------------------------------------------
-- Limits
------------------------------------------------------------

/- The units are within the supply exactly if the number is. -/
theorem units_le_cap_iff
    (h : d.fraction.length ≤ places) :
    d.units ≤ cap ↔ d.value ≤ 200000000 := by
  have hCap : (cap : ℚ) = 200000000 * 10 ^ 8 := by
    norm_num [cap, unitsPerCoin, places]
  rw [← Nat.cast_le (α := ℚ), units_eq h, hCap]
  exact mul_le_mul_iff_left₀ (by positivity)

/- The units exceed a word exactly if they reach its size. -/
theorem wordMax_lt_units_iff
    (h : d.fraction.length ≤ places) :
    Numeral.wordMax < d.units ↔ 2 ^ 64 ≤ d.value * 10 ^ 8 := by
  rw [Numeral.wordMax_lt_iff, ← units_eq h]
  norm_cast

/- There are not too many places within their limit. -/
theorem IsSpelledBy.noneBefore_overflow
    (h : d.IsSpelledBy cs)
    (hPlaces : d.fraction.length ≤ places) :
    AmountError.NoneBefore AmountError.overflow.rank cs := by
  apply h.noneBefore.succ
  intro e hRank
  cases e with
  | tooManyDecimals n =>
      rintro ⟨other, hOther, rfl, hMany⟩
      rw [h.unique hOther] at hMany
      exact Nat.not_lt.mpr hPlaces hMany
  | _ => simp [AmountError.rank] at hRank

/- Nothing overflows within a word. -/
theorem IsSpelledBy.noneBefore_aboveMaximum
    (h : d.IsSpelledBy cs)
    (hPlaces : d.fraction.length ≤ places)
    (hWord : d.units ≤ Numeral.wordMax) :
    AmountError.NoneBefore
      (AmountError.aboveMaximum d.units).rank cs := by
  apply (h.noneBefore_overflow hPlaces).succ
  intro e hRank
  cases e with
  | overflow =>
      rintro ⟨other, hOther, hSize⟩
      rw [h.unique hOther, ← wordMax_lt_units_iff hPlaces] at hSize
      exact Nat.not_lt.mpr hWord hSize
  | _ => simp [AmountError.rank] at hRank

/- Nothing is above the supply within it. -/
theorem IsSpelledBy.noneBefore_all
    (h : d.IsSpelledBy cs)
    (hPlaces : d.fraction.length ≤ places)
    (hCap : d.units ≤ cap) :
    AmountError.NoneBefore 7 cs := by
  have hWord := Nat.le_trans hCap cap_le_wordMax
  apply (h.noneBefore_aboveMaximum hPlaces hWord).succ
  intro e hRank
  cases e with
  | aboveMaximum n =>
      rintro ⟨other, hOther, _, hAbove⟩
      rw [h.unique hOther] at hAbove
      exact not_le.mpr hAbove ((units_le_cap_iff hPlaces).mp hCap)
  | _ => simp [AmountError.rank] at hRank

end Decimal

end Amount

------------------------------------------------------------
-- The First Error
------------------------------------------------------------

namespace AmountError

variable {cs : List Char} {e f : AmountError}

/- There are seven ranks. -/
theorem rank_lt
    (e : AmountError) :
    e.rank < 7 := by
  cases e <;> simp [rank]

/- Two errors of one rank that apply are the same. -/
private theorem eq_of_appliesTo
    (he : e.AppliesTo cs)
    (hf : f.AppliesTo cs)
    (hRank : f.rank = e.rank) :
    f = e := by
  cases e with
  | tooManyDecimals n =>
      cases f with
      | tooManyDecimals m =>
          rcases he with ⟨d, hSpelled, rfl, _⟩
          rcases hf with ⟨other, hOther, rfl, _⟩
          rw [hSpelled.unique hOther]
      | _ => simp [rank] at hRank
  | aboveMaximum n =>
      cases f with
      | aboveMaximum m =>
          rcases he with ⟨d, hSpelled, hValue, _⟩
          rcases hf with ⟨other, hOther, hOtherValue, _⟩
          rw [hSpelled.unique hOther, hValue] at hOtherValue
          rw [Nat.cast_injective hOtherValue]
      | _ => simp [rank] at hRank
  | _ => cases f <;> simp_all [rank]

/- There is one first error only. -/
theorem IsFirstOf.unique
    (he : e.IsFirstOf cs)
    (hf : f.IsFirstOf cs) :
    f = e := by
  have hNotLess : ¬ f.rank < e.rank :=
    fun hLess => he.first f hLess hf.applies
  have hNotMore : ¬ e.rank < f.rank :=
    fun hMore => hf.first e hMore he.applies
  exact eq_of_appliesTo he.applies hf.applies (by omega)

end AmountError

------------------------------------------------------------
-- Texts
------------------------------------------------------------

namespace Amount

open Decimal

variable {s : String} {a : Amount} {d : Decimal} {e : AmountError}

/- A text that spells a decimal number is read as its units. -/
theorem ofText_of_isSpelledBy
    (h : d.IsSpelledBy (Text.trimList s.toList)) :
    ofText s =
      if places < d.fraction.length then
        .error (.tooManyDecimals d.fraction.length)
      else
        ofUnits d.units := by
  unfold ofText
  rw [h.read_eq, ← amount_eq]

/- What is no decimal number is refused as such. -/
theorem ofText_of_read_error
    (h : read (Text.trimList s.toList) = .error e) :
    ofText s = .error e := by
  unfold ofText
  rw [h]

/- Exactly the decimal numbers of amounts are read as these. -/
theorem ofText_eq_ok_iff :
    ofText s = .ok a ↔
      ∃ d : Decimal,
        d.IsSpelledBy (Text.trimList s.toList) ∧
          d.fraction.length ≤ places ∧ d.units = a.units := by
  constructor
  · intro h
    rcases read_cases (Text.trimList s.toList) with
      ⟨d, hSpelled, _, _⟩ | ⟨e, _, hRead⟩
    · rw [ofText_of_isSpelledBy hSpelled] at h
      split at h
      · cases h
      · rename_i hPlaces
        exact
          ⟨d, hSpelled, Nat.not_lt.mp hPlaces,
            ofUnits_eq_ok_iff.mp h⟩
    · rw [ofText_of_read_error hRead] at h
      cases h
  · rintro ⟨d, hSpelled, hPlaces, hUnits⟩
    rw [ofText_of_isSpelledBy hSpelled, if_neg (Nat.not_lt.mpr hPlaces)]
    exact ofUnits_eq_ok_iff.mpr hUnits

/- A text that is refused is refused for the first error. -/
theorem isFirstOf_of_ofText
    (h : ofText s = .error e) :
    e.IsFirstOf (Text.trimList s.toList) := by
  rcases read_cases (Text.trimList s.toList) with
    ⟨d, hSpelled, _, _⟩ | ⟨found, hFirst, hRead⟩
  · rw [ofText_of_isSpelledBy hSpelled] at h
    split at h
    · rename_i hMany
      cases h
      exact ⟨⟨d, hSpelled, rfl, hMany⟩, hSpelled.noneBefore⟩
    · rename_i hPlaces
      have hPlaces := Nat.not_lt.mp hPlaces
      unfold ofUnits at h
      split at h
      · rename_i hWord
        cases h
        exact
          ⟨⟨d, hSpelled, (wordMax_lt_units_iff hPlaces).mp hWord⟩,
            hSpelled.noneBefore_overflow hPlaces⟩
      · rename_i hWord
        split at h
        · cases h
        · rename_i hCap
          cases h
          rw [units_le_cap_iff hPlaces, not_le] at hCap
          exact
            ⟨⟨d, hSpelled, (units_eq hPlaces).symm, hCap⟩,
              hSpelled.noneBefore_aboveMaximum hPlaces
                (Nat.not_lt.mp hWord)⟩
  · rw [ofText_of_read_error hRead] at h
    cases h
    exact hFirst

/- No error applies to a text that is read. -/
theorem not_appliesTo_of_ofText
    (h : ofText s = .ok a) :
    ¬ e.AppliesTo (Text.trimList s.toList) := by
  rcases ofText_eq_ok_iff.mp h with ⟨d, hSpelled, hPlaces, hUnits⟩
  have hCap : d.units ≤ cap := hUnits ▸ a.units_le
  exact hSpelled.noneBefore_all hPlaces hCap e e.rank_lt

/- Exactly the decimal numbers within the limits are read. -/
theorem exists_ofText_iff :
    (∃ a, ofText s = .ok a) ↔
      ∃ d : Decimal,
        d.IsSpelledBy (Text.trimList s.toList) ∧
          d.fraction.length ≤ 8 ∧ d.value ≤ 200000000 := by
  constructor
  · rintro ⟨a, ha⟩
    rcases ofText_eq_ok_iff.mp ha with ⟨d, hSpelled, hPlaces, hUnits⟩
    have hCap : d.units ≤ cap := hUnits ▸ a.units_le
    exact ⟨d, hSpelled, hPlaces, (units_le_cap_iff hPlaces).mp hCap⟩
  · rintro ⟨d, hSpelled, hPlaces, hValue⟩
    have hCap : d.units ≤ cap := (units_le_cap_iff hPlaces).mpr hValue
    exact
      ⟨⟨d.units, hCap⟩,
        ofText_eq_ok_iff.mpr ⟨d, hSpelled, hPlaces, rfl⟩⟩

/- What is read has the units of the number that is spelled. -/
theorem units_of_ofText
    (h : ofText s = .ok a)
    (hSpelled : d.IsSpelledBy (Text.trimList s.toList)) :
    (a.units : ℚ) = d.value * 10 ^ 8 := by
  rcases ofText_eq_ok_iff.mp h with ⟨other, hOther, hPlaces, hUnits⟩
  rw [hOther.unique hSpelled, ← units_eq hPlaces, hUnits]

/-
  A text is read exactly if it spells a decimal number with at
  most eight places that is no more than the supply, blanks at
  its ends aside, and then its units are exact. Any other text
  is refused for the first error that applies.
-/
theorem ofText_reads_or_refuses
    (s : String) :
    ((∃ a, ofText s = .ok a) ↔
        ∃ d : Decimal,
          d.IsSpelledBy (Text.trimList s.toList) ∧
            d.fraction.length ≤ 8 ∧ d.value ≤ 200000000) ∧
      (∀ (a : Amount) (d : Decimal),
        ofText s = .ok a →
          d.IsSpelledBy (Text.trimList s.toList) →
            (a.units : ℚ) = d.value * 10 ^ 8) ∧
      ∀ e : AmountError,
        ofText s = .error e ↔
          e.IsFirstOf (Text.trimList s.toList) := by
  refine ⟨exists_ofText_iff, fun _ _ => units_of_ofText, ?_⟩
  intro e
  refine ⟨isFirstOf_of_ofText, fun hFirst => ?_⟩
  cases hText : ofText s with
  | ok a =>
      exact absurd hFirst.applies (not_appliesTo_of_ofText hText)
  | error f => rw [(isFirstOf_of_ofText hText).unique hFirst]

/- Seven and a half, with zeros and blanks to spare, is read exactly. -/
theorem ofText_reads_or_refuses_padded :
    ∃ (d : Decimal) (a : Amount),
      d.IsSpelledBy (Text.trimList " 007.50 ".toList) ∧
        ofText " 007.50 " = .ok a ∧
          (a.units : ℚ) = 15 / 2 * 10 ^ 8 := by
  have hSpelled :
      (⟨['0', '0', '7'], ['5', '0']⟩ : Decimal).IsSpelledBy
        (Text.trimList " 007.50 ".toList) :=
    { whole := by decide
      fraction := by decide
      some_digit := by decide
      eq_or := by decide +kernel }
  have hValue :
      (⟨['0', '0', '7'], ['5', '0']⟩ : Decimal).value = 15 / 2 := by
    have hWhole : Numeral.value ['0', '0', '7'] = 7 := rfl
    have hFraction : Numeral.value ['5', '0'] = 50 := rfl
    norm_num [value, hWhole, hFraction]
  rcases ofText_reads_or_refuses " 007.50 " with ⟨hReads, hUnits, _⟩
  rcases hReads.mpr
      ⟨_, hSpelled, by decide, by norm_num [hValue]⟩ with
    ⟨a, ha⟩
  refine ⟨_, a, hSpelled, ha, ?_⟩
  rw [hUnits a _ ha hSpelled, hValue]

/- Too many places are reported before too great a number. -/
example :
    ofText " 99999999999999999999.123456789 " =
      .error (.tooManyDecimals 9) := by
  decide +kernel

end Amount

end Remit
