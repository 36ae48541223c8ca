import Mathlib.Algebra.Order.Floor.Semiring
import Mathlib.Data.Rat.Floor
import Remit.Proofs.Amount.Reading

/-
  This file shows that reading a decimal number rounded down
  yields the floor of its units, as long as that is within the
  supply. Texts that are read exactly are read the same rounded
  down, and texts that spell no decimal number are refused the
  same.

  Key definitions include:
    * `Amount.Decimal.lost`
    * `Amount.IsFloored`

  Key theorems include:
    * `Amount.Decimal.units_truncated`
    * `Amount.floorOfText_eq`
    * `Amount.floorOfText_floors_or_agrees`
-/

namespace Remit

namespace Amount

namespace Decimal

variable {d : Decimal}

------------------------------------------------------------
-- Places Beyond the Last One
------------------------------------------------------------

/- The units that the places beyond the last one denote. -/
def lost (d : Decimal) : ℚ :=
  Numeral.value (d.fraction.drop places) * 10 ^ 8 /
    10 ^ d.fraction.length

/- No more than all places are kept. -/
theorem length_fraction_truncated
    (d : Decimal) :
    d.truncated.fraction.length ≤ places :=
  List.length_take_le _ _

/- Nothing is dropped from no more than all places. -/
theorem truncated_of_length_le
    (h : d.fraction.length ≤ places) :
    d.truncated = d := by
  unfold truncated
  rw [List.take_of_length_le h]

/- A number is what is kept of it and what is lost. -/
theorem value_eq_kept_add_lost
    (d : Decimal) :
    d.value * 10 ^ 8 = d.truncated.units + d.lost := by
  have hSplit :
      d.truncated.fraction ++ d.fraction.drop places = d.fraction :=
    List.take_append_drop _ _
  have hKept := units_eq (length_fraction_truncated d)
  have hDigits :
      Numeral.value d.fraction =
        Numeral.value d.truncated.fraction *
            10 ^ (d.fraction.drop places).length +
          Numeral.value (d.fraction.drop places) := by
    rw [← Numeral.value_append, hSplit]
  have hLength :
      (10 : ℚ) ^ d.fraction.length =
        10 ^ d.truncated.fraction.length *
          10 ^ (d.fraction.drop places).length := by
    rw [← pow_add, ← List.length_append, hSplit]
  have hWhole : d.truncated.whole = d.whole := rfl
  rw [hKept]
  unfold value lost
  -- Both sides are the kept and the dropped digits over one power.
  rw [hLength, hDigits, hWhole]
  push_cast
  field_simp
  ring

/- A decimal number is not negative. -/
theorem value_nonneg
    (d : Decimal) :
    0 ≤ d.value := by
  unfold value
  positivity

/- What is lost is no less than nothing. -/
theorem lost_nonneg
    (d : Decimal) :
    0 ≤ d.lost := by
  unfold lost
  positivity

/-
  What is lost is less than one unit, even if all places beyond
  the last one are nines.
-/
theorem lost_lt_one
    (h : Numeral.IsDigits d.fraction) :
    d.lost < 1 := by
  have hDropped : Numeral.IsDigits (d.fraction.drop places) :=
    fun c hc => h c (List.mem_of_mem_drop hc)
  have hLess := Numeral.value_lt hDropped
  have hUnits :
      Numeral.value (d.fraction.drop places) * 10 ^ 8 <
        10 ^ d.fraction.length := by
    by_cases hPlaces : d.fraction.length ≤ places
    · rw [List.drop_of_length_le hPlaces]
      exact Nat.pow_pos (by decide)
    · have hLength :
          d.fraction.length = (d.fraction.drop places).length + 8 := by
        rw [List.length_drop]
        exact (Nat.sub_add_cancel (Nat.le_of_not_le hPlaces)).symm
      rw [hLength, Nat.pow_add]
      exact Nat.mul_lt_mul_of_pos_right hLess (by decide)
  unfold lost
  rw [div_lt_one (by positivity)]
  exact_mod_cast hUnits

/- Dropping the places beyond the last one rounds the units down. -/
theorem units_truncated
    (h : Numeral.IsDigits d.fraction) :
    d.truncated.units = ⌊d.value * 10 ^ 8⌋₊ := by
  have hValue := value_eq_kept_add_lost d
  have hLost := lost_nonneg d
  have hLess := lost_lt_one h
  symm
  rw [Nat.floor_eq_iff (by rw [hValue]; positivity), hValue]
  constructor
  · linarith
  · linarith

end Decimal

------------------------------------------------------------
-- Texts
------------------------------------------------------------

open Decimal

variable {s t : String} {a b : Amount} {d : Decimal}

/- A decimal number is read rounded down as the floor of its units. -/
theorem floorOfText_eq
    (h : d.IsSpelledBy (Text.trimList s.toList)) :
    floorOfText s = ofUnits ⌊d.value * 10 ^ 8⌋₊ := by
  unfold floorOfText
  rw [h.read_eq, ← units_truncated h.fraction]
  exact amount_eq d.truncated

/- It is read as the amount that has the floor of its units. -/
theorem floorOfText_eq_ok_iff
    (h : d.IsSpelledBy (Text.trimList s.toList)) :
    floorOfText s = .ok a ↔ ⌊d.value * 10 ^ 8⌋₊ = a.units := by
  rw [floorOfText_eq h]
  exact ofUnits_eq_ok_iff

/- It is read as an amount as long as the floor is within the supply. -/
theorem exists_floorOfText_iff
    (h : d.IsSpelledBy (Text.trimList s.toList)) :
    (∃ a, floorOfText s = .ok a) ↔ ⌊d.value * 10 ^ 8⌋₊ ≤ cap := by
  simp only [floorOfText_eq_ok_iff h]
  constructor
  · rintro ⟨a, ha⟩
    rw [ha]
    exact a.units_le
  · intro hCap
    exact ⟨⟨_, hCap⟩, rfl⟩

/- No greater decimal number is read as a smaller amount. -/
theorem floorOfText_mono
    {e : Decimal}
    (hs : d.IsSpelledBy (Text.trimList s.toList))
    (ht : e.IsSpelledBy (Text.trimList t.toList))
    (hLess : d.value ≤ e.value)
    (hb : floorOfText t = .ok b) :
    ∃ a, floorOfText s = .ok a ∧ a ≤ b := by
  have hUnits := (floorOfText_eq_ok_iff ht).mp hb
  have hFloor :
      ⌊d.value * 10 ^ 8⌋₊ ≤ ⌊e.value * 10 ^ 8⌋₊ :=
    Nat.floor_mono (mul_le_mul_of_nonneg_right hLess (by positivity))
  rw [hUnits] at hFloor
  have hCap := Nat.le_trans hFloor b.units_le
  exact ⟨⟨_, hCap⟩, (floorOfText_eq_ok_iff hs).mpr rfl, hFloor⟩

/- What is read exactly is read the same rounded down. -/
theorem floorOfText_of_ofText
    (h : ofText s = .ok a) :
    floorOfText s = .ok a := by
  rcases ofText_eq_ok_iff.mp h with ⟨d, hSpelled, hPlaces, hUnits⟩
  unfold floorOfText
  rw [hSpelled.read_eq]
  change d.truncated.amount = .ok a
  rw [truncated_of_length_le hPlaces, amount_eq, hUnits]
  exact ofUnits_eq_ok_iff.mpr rfl

/- What spells no decimal number is refused the same either way. -/
theorem refused_alike
    (h : ∀ d : Decimal, ¬ d.IsSpelledBy (Text.trimList s.toList)) :
    ∃ e, ofText s = .error e ∧ floorOfText s = .error e := by
  rcases read_cases (Text.trimList s.toList) with
    ⟨d, hSpelled, _, _⟩ | ⟨e, _, hRead⟩
  · exact absurd hSpelled (h d)
  · refine ⟨e, ofText_of_read_error hRead, ?_⟩
    unfold floorOfText
    rw [hRead]

/-
  A text that spells a decimal number is read as the floor of
  its units, exactly if that is within the supply. So it is
  never rounded up, and no text that spells a smaller number is
  read as a greater amount or refused.
-/
structure IsFloored (s : String) (d : Decimal) : Prop where
  exists_iff :
    (∃ a, floorOfText s = .ok a) ↔ ⌊d.value * 10 ^ 8⌋₊ ≤ cap
  units_eq :
    ∀ a, floorOfText s = .ok a → a.units = ⌊d.value * 10 ^ 8⌋₊
  never_up :
    ∀ a, floorOfText s = .ok a → (a.units : ℚ) ≤ d.value * 10 ^ 8
  monotone :
    ∀ (t : String) (e : Decimal) (b : Amount),
      floorOfText s = .ok b →
        e.IsSpelledBy (Text.trimList t.toList) →
          e.value ≤ d.value →
            ∃ a, floorOfText t = .ok a ∧ a ≤ b

/- Texts that spell decimal numbers are read rounded down. -/
theorem isFloored_of_isSpelledBy
    (h : d.IsSpelledBy (Text.trimList s.toList)) :
    IsFloored s d where
  exists_iff := exists_floorOfText_iff h
  units_eq := fun _ ha => ((floorOfText_eq_ok_iff h).mp ha).symm
  never_up := by
    intro a ha
    rw [← (floorOfText_eq_ok_iff h).mp ha]
    exact Nat.floor_le (mul_nonneg (value_nonneg d) (by positivity))
  monotone := fun _ _ _ hb hOther hLess =>
    floorOfText_mono hOther h hLess hb

/-
  Any text that spells a decimal number, blanks at its ends
  aside, is read rounded down. What is read exactly is read the
  same, and any other text is refused for the same reason.
-/
theorem floorOfText_floors_or_agrees
    (s : String) :
    (∀ d : Decimal,
        d.IsSpelledBy (Text.trimList s.toList) → IsFloored s d) ∧
      (∀ a : Amount, ofText s = .ok a → floorOfText s = .ok a) ∧
      ((∀ d : Decimal, ¬ d.IsSpelledBy (Text.trimList s.toList)) →
        ∃ e, ofText s = .error e ∧ floorOfText s = .error e) :=
  ⟨fun _ => isFloored_of_isSpelledBy,
    fun _ => floorOfText_of_ofText,
    refused_alike⟩

/-
  What is less than a unit above the supply is read as the
  supply, although it is refused when it is read exactly.
-/
theorem floorOfText_floors_or_agrees_brim :
    ∃ d : Decimal,
      d.IsSpelledBy (Text.trimList " 200000000.000000009".toList) ∧
        200000000 < d.value ∧
        ofText " 200000000.000000009" = .error (.tooManyDecimals 9) ∧
        floorOfText " 200000000.000000009" = .ok supply := by
  let d : Decimal :=
    ⟨"200000000".toList, "000000009".toList⟩
  have hSpelled :
      d.IsSpelledBy (Text.trimList " 200000000.000000009".toList) :=
    read_eq_ok_iff.mp (by decide +kernel)
  have hWhole : Numeral.value d.whole = 200000000 := by
    decide +kernel
  have hFraction : Numeral.value d.fraction = 9 := by
    decide +kernel
  have hLength : d.fraction.length = 9 := by
    decide +kernel
  have hValue : d.value = 200000000 + 9 / 10 ^ 9 := by
    norm_num [value, hWhole, hFraction, hLength]
  have hFloor : ⌊d.value * 10 ^ 8⌋₊ = cap := by
    rw [hValue, Nat.floor_eq_iff (by norm_num)]
    norm_num [cap, unitsPerCoin, places]
  rcases floorOfText_floors_or_agrees " 200000000.000000009" with
    ⟨hFloors, _, _⟩
  have hFloored := hFloors d hSpelled
  rcases hFloored.exists_iff.mpr (Nat.le_of_eq hFloor) with ⟨a, ha⟩
  have hSupply : a = supply :=
    Amount.ext ((hFloored.units_eq a ha).trans hFloor)
  refine ⟨d, hSpelled, ?_, by decide +kernel, hSupply ▸ ha⟩
  norm_num [hValue]

end Amount

end Remit
