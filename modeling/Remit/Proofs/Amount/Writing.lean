import Remit.Proofs.Amount.Reading
import Remit.Proofs.Text.Trimming

/-
  This file shows that every amount is read back from each of
  its texts, and that its short text is the one to write it by:
  it has nothing to spare, and every other text of the amount
  with whole digits is longer. So two texts of amounts have the
  same short text exactly if they denote the same number.

  Key definitions include:
    * `Amount.Decimal.short`
    * `Amount.Decimal.chars`
    * `Amount.Decimal.IsTerselySpelledBy`
    * `Amount.Denotes`
    * `Amount.IsWrittenBy`

  Key theorems include:
    * `Amount.shortText_eq`
    * `Amount.ofText_shortText`
    * `Amount.ofText_fixedText`
    * `Amount.isWrittenBy_shortText`
    * `Amount.denotes_iff`
-/

namespace Remit

namespace Amount

------------------------------------------------------------
-- Zeros at the End
------------------------------------------------------------

/- What is left is the start. -/
theorem dropZeros_prefix
    (cs : List Char) :
    dropZeros cs <+: cs :=
  List.rdropWhile_prefix _ cs

/- Zeros at the end are left out. -/
theorem dropZeros_append_zeros
    (cs : List Char)
    (n : Nat) :
    dropZeros (cs ++ List.replicate n '0') = dropZeros cs := by
  unfold dropZeros
  rw [List.reverse_append, List.reverse_replicate,
    List.dropWhile_append_of_pos]
  intro c hc
  rw [List.eq_of_mem_replicate hc]
  rfl

/- Nothing else is left out. -/
theorem exists_zeros
    (cs : List Char) :
    ∃ n, dropZeros cs ++ List.replicate n '0' = cs := by
  have hZeros :
      ∀ c ∈ cs.rtakeWhile (· == '0'), c = '0' := by
    intro c hc
    have hZero := List.mem_rtakeWhile_imp (p := (· == '0')) hc
    exact eq_of_beq hZero
  refine ⟨(cs.rtakeWhile (· == '0')).length, ?_⟩
  rw [← List.eq_replicate_of_mem hZeros]
  exact List.rdropWhile_append_rtakeWhile

/- What is left does not end in a zero. -/
theorem getLast?_dropZeros
    (cs : List Char) :
    (dropZeros cs).getLast? ≠ some '0' := by
  intro hLast
  have hHead : (cs.reverse.dropWhile (· == '0')).head? = some '0' := by
    rw [← List.getLast?_reverse]
    exact hLast
  have hNot := List.head?_dropWhile_not (· == '0') cs.reverse
  rw [hHead] at hNot
  cases hNot

namespace Decimal

variable {d : Decimal} {cs : List Char}

------------------------------------------------------------
-- Short Forms
------------------------------------------------------------

/- The decimal number without zeros to spare at its ends. -/
def short (d : Decimal) : Decimal where
  whole := Numeral.digits (Numeral.value d.whole)
  fraction := dropZeros d.fraction

/- The characters of a decimal number, with a point if need be. -/
def chars (d : Decimal) : List Char :=
  if d.fraction = [] then
    d.whole
  else
    d.whole ++ '.' :: d.fraction

/- Dropping zeros leaves digits. -/
theorem isDigits_dropZeros
    {digits : List Char}
    (h : Numeral.IsDigits digits) :
    Numeral.IsDigits (dropZeros digits) := by
  have hPrefix := dropZeros_prefix digits
  exact fun c hc => h c (hPrefix.subset hc)

/- Digits are spelled by their characters if there are any. -/
theorem isSpelledBy_chars
    (hWhole : Numeral.IsDigits d.whole)
    (hFraction : Numeral.IsDigits d.fraction)
    (hSome : d.whole ≠ []) :
    d.IsSpelledBy d.chars where
  whole := hWhole
  fraction := hFraction
  some_digit := Or.inl hSome
  eq_or := by
    unfold chars
    split
    · rename_i hNone
      exact Or.inr ⟨rfl, hNone⟩
    · exact Or.inl rfl

/- The characters count the digits, and the point if need be. -/
theorem length_chars :
    d.chars.length =
      d.whole.length +
        (if d.fraction = [] then 0 else d.fraction.length + 1) := by
  unfold chars
  split <;> simp

/- What spells a decimal number is no shorter than its characters. -/
theorem IsSpelledBy.length_chars_le
    (h : d.IsSpelledBy cs) :
    d.chars.length ≤ cs.length ∧
      (d.chars.length = cs.length → d.chars = cs) := by
  rcases h.eq_or with rfl | ⟨rfl, hNone⟩
  · unfold chars
    split
    · rename_i hNone
      simp [hNone]
    · exact ⟨Nat.le_refl _, fun _ => rfl⟩
  · rw [chars, if_pos hNone]
    exact ⟨Nat.le_refl _, fun _ => rfl⟩

/- A decimal number as long as its short form is that. -/
private theorem short_eq_self
    (hDigits : Numeral.IsDigits d.whole)
    (hWhole : d.short.whole.length = d.whole.length)
    (hFraction : d.short.fraction.length = d.fraction.length) :
    d.short = d := by
  have hWholeEq : Numeral.digits (Numeral.value d.whole) = d.whole :=
    Numeral.eq_of_value_eq (Numeral.isDigits_digits _) hDigits hWhole
      (Numeral.value_digits _)
  have hPrefix := dropZeros_prefix d.fraction
  have hFractionEq := hPrefix.eq_of_length hFraction
  unfold short
  rw [hWholeEq, hFractionEq]

/- Short forms are no longer, and as long only if they are the same. -/
theorem length_chars_short_le
    (hDigits : Numeral.IsDigits d.whole)
    (hSome : d.whole ≠ []) :
    d.short.chars.length ≤ d.chars.length ∧
      (d.short.chars.length = d.chars.length →
        d.short.chars = d.chars) := by
  have hPrefix := dropZeros_prefix d.fraction
  have hWhole : d.short.whole.length ≤ d.whole.length :=
    Numeral.length_digits_value_le hDigits hSome
  have hFraction : d.short.fraction.length ≤ d.fraction.length :=
    hPrefix.length_le
  have hNone : d.fraction = [] → d.short.fraction = [] :=
    fun hNil => List.prefix_nil.mp (hNil ▸ hPrefix)
  rw [length_chars, length_chars]
  by_cases hNil : d.fraction = []
  · rw [if_pos hNil, if_pos (hNone hNil)]
    refine ⟨by omega, fun hSame => congrArg chars ?_⟩
    exact short_eq_self hDigits hSame (by rw [hNone hNil, hNil])
  · rw [if_neg hNil]
    split
    · exact ⟨by omega, fun hSame => by omega⟩
    · refine ⟨by omega, fun hSame => congrArg chars ?_⟩
      exact short_eq_self hDigits (by omega) (by omega)

/- Zeros up to all places make up for those that were dropped. -/
theorem filled_short
    (hPlaces : d.fraction.length ≤ places) :
    d.short.filled = d.filled := by
  rcases exists_zeros d.fraction with ⟨n, hZeros⟩
  have hLength := congrArg List.length hZeros
  rw [List.length_append, List.length_replicate] at hLength
  have hCount :
      places - (dropZeros d.fraction).length =
        n + (places - d.fraction.length) := by
    omega
  change
    dropZeros d.fraction ++
        List.replicate (places - (dropZeros d.fraction).length) '0' =
      d.fraction ++ List.replicate (places - d.fraction.length) '0'
  rw [hCount, ← List.replicate_append_replicate, ← List.append_assoc,
    hZeros]

/- Short forms have the same units. -/
theorem units_short
    (hPlaces : d.fraction.length ≤ places) :
    d.short.units = d.units := by
  unfold units
  rw [filled_short hPlaces]
  change Numeral.value (Numeral.digits _) * _ + _ = _
  rw [Numeral.value_digits]

/- All places are filled. -/
theorem length_filled
    (hPlaces : d.fraction.length ≤ places) :
    d.filled.length = places := by
  rw [filled, List.length_append, List.length_replicate]
  omega

/- They are filled with digits. -/
theorem isDigits_filled
    (h : Numeral.IsDigits d.fraction) :
    Numeral.IsDigits d.filled :=
  Numeral.isDigits_append.mpr ⟨h, Numeral.isDigits_zeros _⟩

/- The units tell the whole digits from the others. -/
theorem divMod_units
    (hFraction : Numeral.IsDigits d.fraction)
    (hPlaces : d.fraction.length ≤ places) :
    d.units / unitsPerCoin = Numeral.value d.whole ∧
      d.units % unitsPerCoin = Numeral.value d.filled := by
  have hLess : Numeral.value d.filled < unitsPerCoin := by
    have hValue := Numeral.value_lt (isDigits_filled hFraction)
    rw [length_filled hPlaces] at hValue
    exact hValue
  have hPos : 0 < unitsPerCoin := by decide
  unfold units
  rw [Nat.mul_comm]
  constructor
  · rw [Nat.mul_add_div hPos, Nat.div_eq_of_lt hLess, Nat.add_zero]
  · rw [Nat.mul_add_mod, Nat.mod_eq_of_lt hLess]

------------------------------------------------------------
-- Terse Spelling
------------------------------------------------------------

/-
  Characters spell a decimal number with nothing to spare: it
  has whole digits, without a zero before another one, its
  places do not end in a zero, and there is no point without
  places.
-/
structure IsTerselySpelledBy (d : Decimal) (cs : List Char) :
    Prop where
  spelled : d.IsSpelledBy cs
  whole_ne_nil : d.whole ≠ []
  leading : d.whole.head? = some '0' → d.whole = ['0']
  trailing : d.fraction.getLast? ≠ some '0'
  point : '.' ∈ cs → d.fraction ≠ []

/- The short form has nothing to spare. -/
theorem isTerselySpelledBy_short
    (hFraction : Numeral.IsDigits d.fraction) :
    d.short.IsTerselySpelledBy d.short.chars where
  spelled :=
    isSpelledBy_chars (Numeral.isDigits_digits _)
      (isDigits_dropZeros hFraction) (Numeral.digits_ne_nil _)
  whole_ne_nil := Numeral.digits_ne_nil _
  leading := Numeral.head?_digits
  trailing := getLast?_dropZeros _
  point := by
    intro hPoint hNone
    rw [chars, if_pos hNone] at hPoint
    cases Numeral.isDigits_digits _ '.' hPoint

/- What spells a decimal number is trimmed. -/
theorem IsSpelledBy.trimList_eq
    (h : d.IsSpelledBy cs) :
    Text.trimList cs = cs := by
  apply Text.trimList_of_not_isBlank
  intro c hc
  by_cases hPoint : c = '.'
  · subst hPoint
    decide
  · rcases h.hasParts.mem_iff.mp ⟨hc, hPoint⟩ with hMem | hMem
    · exact Text.not_isBlank_of_isDigit (h.whole c hMem)
    · exact Text.not_isBlank_of_isDigit (h.fraction c hMem)

end Decimal

------------------------------------------------------------
-- Texts of Amounts
------------------------------------------------------------

open Decimal

variable {a b : Amount} {d : Decimal} {s t : String}

/- The decimal number of an amount, with all places. -/
def full (a : Amount) : Decimal where
  whole := a.wholeDigits
  fraction := a.fractionDigits

/- It has all places. -/
theorem length_fractionDigits
    (a : Amount) :
    a.fractionDigits.length = places :=
  Numeral.length_padded (by decide) (Nat.mod_lt _ (by decide))

/- The places of an amount are digits. -/
theorem isDigits_fractionDigits
    (a : Amount) :
    Numeral.IsDigits a.fractionDigits :=
  Numeral.isDigits_padded _ _

/- It has the units of the amount. -/
theorem units_full
    (a : Amount) :
    a.full.units = a.units := by
  have hFilled : a.full.filled = a.fractionDigits := by
    change
      a.fractionDigits ++
        List.replicate (places - a.fractionDigits.length) '0' = _
    rw [length_fractionDigits, Nat.sub_self]
    exact List.append_nil _
  unfold Decimal.units
  rw [hFilled]
  change
    Numeral.value (Numeral.digits (a.units / unitsPerCoin)) *
        unitsPerCoin +
      Numeral.value (Numeral.padded places (a.units % unitsPerCoin)) =
        a.units
  rw [Numeral.value_digits, Numeral.value_padded]
  exact Nat.div_add_mod' _ _

/-
  The short text of an amount has the characters of the short
  form of any decimal number with its units.
-/
theorem shortText_eq
    (hFraction : Numeral.IsDigits d.fraction)
    (hPlaces : d.fraction.length ≤ places)
    (hUnits : d.units = a.units) :
    a.shortText = String.ofList d.short.chars := by
  rcases divMod_units hFraction hPlaces with ⟨hDiv, hMod⟩
  rw [hUnits] at hDiv hMod
  have hWhole : a.wholeDigits = d.short.whole := by
    rw [wholeDigits, hDiv]
    rfl
  have hFilled : a.fractionDigits = d.filled := by
    have hSome : d.filled ≠ [] := by
      rw [← List.length_pos_iff, length_filled hPlaces]
      decide
    rw [fractionDigits, hMod, ← length_filled hPlaces]
    exact Numeral.padded_value (isDigits_filled hFraction) hSome
  have hShort : dropZeros a.fractionDigits = d.short.fraction := by
    rw [hFilled]
    exact dropZeros_append_zeros _ _
  have hNone :
      a.units % unitsPerCoin = 0 ↔ d.short.fraction = [] := by
    rw [← hShort]
    constructor
    · intro hZero
      rw [fractionDigits, hZero]
      decide
    · intro hNil
      rcases exists_zeros a.fractionDigits with ⟨n, hZeros⟩
      rw [hMod, ← hFilled, ← hZeros, Numeral.value_append_zeros,
        hNil]
      exact Nat.zero_mul _
  unfold shortText chars
  rw [hWhole, hShort]
  simp only [hNone]
  split <;> rfl

/- The short text of an amount has nothing to spare. -/
theorem isTerselySpelledBy_shortText
    (a : Amount) :
    a.full.short.IsTerselySpelledBy a.shortText.toList := by
  have hFraction := isDigits_fractionDigits a
  have hPlaces := Nat.le_of_eq (length_fractionDigits a)
  rw [shortText_eq (d := a.full) hFraction hPlaces (units_full a),
    String.toList_ofList]
  exact isTerselySpelledBy_short hFraction

/- A text is read as the units that it spells. -/
theorem ofText_of_spelled
    (h : d.IsSpelledBy s.toList)
    (hPlaces : d.fraction.length ≤ places)
    (hUnits : d.units = a.units) :
    ofText s = .ok a := by
  apply ofText_eq_ok_iff.mpr
  rw [h.trimList_eq]
  exact ⟨d, h, hPlaces, hUnits⟩

/- An amount is read back from its short text. -/
theorem ofText_shortText
    (a : Amount) :
    ofText a.shortText = .ok a := by
  have hPlaces := Nat.le_of_eq (length_fractionDigits a)
  have hPrefix := dropZeros_prefix a.fractionDigits
  apply ofText_of_spelled (isTerselySpelledBy_shortText a).spelled
  · exact Nat.le_trans hPrefix.length_le hPlaces
  · rw [units_short (d := a.full) hPlaces, units_full]

/- An amount is read back from its text with all places. -/
theorem ofText_fixedText
    (a : Amount) :
    ofText a.fixedText = .ok a := by
  have hPlaces := Nat.le_of_eq (length_fractionDigits a)
  have hSpelled : a.full.IsSpelledBy a.fixedText.toList := by
    rw [fixedText, String.toList_ofList]
    exact
      { whole := Numeral.isDigits_digits _
        fraction := isDigits_fractionDigits a
        some_digit := Or.inl (Numeral.digits_ne_nil _)
        eq_or := Or.inl rfl }
  exact ofText_of_spelled hSpelled hPlaces (units_full a)

/- Amounts with the same short text are the same. -/
theorem shortText_inj :
    a.shortText = b.shortText ↔ a = b := by
  constructor
  · intro h
    have hRead := ofText_shortText a
    rw [h, ofText_shortText b] at hRead
    cases hRead
    rfl
  · exact congrArg shortText

------------------------------------------------------------
-- The Shortest Text
------------------------------------------------------------

/- The number that a text denotes, blanks at its ends aside. -/
def Denotes (s : String) (q : ℚ) : Prop :=
  ∃ d : Decimal,
    d.IsSpelledBy (Text.trimList s.toList) ∧ d.value = q

/- A text spells a decimal number with whole digits. -/
def HasWhole (s : String) : Prop :=
  ∃ d : Decimal,
    d.IsSpelledBy (Text.trimList s.toList) ∧ d.whole ≠ []

/-
  An amount is read from a text with whole digits and nothing to
  spare, and any other text with whole digits that it is read
  from is longer.
-/
structure IsWrittenBy (a : Amount) (s : String) : Prop where
  reads : ofText s = .ok a
  hasWhole : HasWhole s
  terse : ∃ d : Decimal, d.IsTerselySpelledBy s.toList
  shortest :
    ∀ t, ofText t = .ok a → HasWhole t → t ≠ s → s.length < t.length

/- Other texts of an amount with whole digits are longer. -/
theorem length_shortText_lt
    (ht : ofText t = .ok a)
    (hWhole : HasWhole t)
    (hNe : t ≠ a.shortText) :
    a.shortText.length < t.length := by
  rcases ofText_eq_ok_iff.mp ht with ⟨d, hSpelled, hPlaces, hUnits⟩
  rcases hWhole with ⟨other, hOther, hSome⟩
  rw [hSpelled.unique hOther] at hSome
  have hShort := shortText_eq hSpelled.fraction hPlaces hUnits
  have hFewer := length_chars_short_le hSpelled.whole hSome
  have hChars := hSpelled.length_chars_le
  have hTrimmed := Text.trimList_sublist t.toList
  have hKept := hTrimmed.length_le
  rw [← String.length_toList (s := t), hShort, String.length_ofList]
  -- Without a character to spare the text is the short one.
  by_contra hLess
  apply hNe
  have hSame : d.short.chars = t.toList := by
    rw [hFewer.2 (by omega), hChars.2 (by omega),
      hTrimmed.eq_of_length (by omega)]
  rw [hShort, hSame, String.ofList_toList]

/- An amount is written by its short text. -/
theorem isWrittenBy_shortText
    (a : Amount) :
    a.IsWrittenBy a.shortText where
  reads := ofText_shortText a
  hasWhole := by
    have hTerse := isTerselySpelledBy_shortText a
    unfold HasWhole
    rw [hTerse.spelled.trimList_eq]
    exact ⟨_, hTerse.spelled, hTerse.whole_ne_nil⟩
  terse := ⟨_, isTerselySpelledBy_shortText a⟩
  shortest := fun _ => length_shortText_lt

/- No other text writes it. -/
theorem isWrittenBy_iff :
    a.IsWrittenBy s ↔ s = a.shortText := by
  constructor
  · intro h
    by_contra hNe
    have hShort := isWrittenBy_shortText a
    have hLess := length_shortText_lt h.reads h.hasWhole hNe
    have hMore := h.shortest _ hShort.reads hShort.hasWhole
      (Ne.symm hNe)
    exact Nat.lt_asymm hLess hMore
  · rintro rfl
    exact isWrittenBy_shortText a

/- The text of an amount denotes the number of its coins. -/
theorem denotes_iff
    {q : ℚ}
    (h : ofText s = .ok a) :
    Denotes s q ↔ q = a.units / 10 ^ 8 := by
  have hPos : (10 : ℚ) ^ 8 ≠ 0 := by positivity
  rcases exists_ofText_iff.mp ⟨a, h⟩ with ⟨d, hSpelled, _⟩
  have hUnits := units_of_ofText h hSpelled
  rw [eq_div_iff hPos, hUnits, mul_left_inj' hPos]
  constructor
  · rintro ⟨other, hOther, rfl⟩
    rw [hSpelled.unique hOther]
  · rintro rfl
    exact ⟨d, hSpelled, rfl⟩

/-
  Every amount is read back from its text with all places, and
  is written by its short text; and two texts of amounts lead to
  the same short text exactly if they denote the same number.
-/
theorem shortText_canonical :
    (∀ a : Amount,
        ofText a.fixedText = .ok a ∧ a.IsWrittenBy a.shortText) ∧
      ∀ (s t : String) (a b : Amount),
        ofText s = .ok a →
          ofText t = .ok b →
            (∃ p, Denotes s p) ∧ (∃ q, Denotes t q) ∧
              ∀ p q,
                Denotes s p →
                  Denotes t q →
                    (a.shortText = b.shortText ↔ p = q) := by
  refine ⟨fun a => ?_, fun s t a b hs ht => ⟨?_, ?_, ?_⟩⟩
  · exact ⟨ofText_fixedText a, isWrittenBy_shortText a⟩
  · exact ⟨_, (denotes_iff hs).mpr rfl⟩
  · exact ⟨_, (denotes_iff ht).mpr rfl⟩
  · intro p q hp hq
    have hPos : (10 : ℚ) ^ 8 ≠ 0 := by positivity
    rw [(denotes_iff hs).mp hp, (denotes_iff ht).mp hq, shortText_inj,
      div_left_inj' hPos, Nat.cast_inj]
    exact ⟨congrArg units, ext⟩

/- One and a half coins. -/
def oneAndHalf : Amount :=
  capped 150000000

/- A text with zeros and a blank to spare has the value of another. -/
theorem shortText_canonical_padded :
    (∃ p, Denotes " 01.50" p ∧ Denotes "1.5" p) ∧
      oneAndHalf.shortText.length < " 01.50".length := by
  have hPadded : ofText " 01.50" = .ok oneAndHalf := by decide +kernel
  have hTerse : ofText "1.5" = .ok oneAndHalf := by decide +kernel
  have hWhole : HasWhole " 01.50" := by
    refine ⟨⟨['0', '1'], ['5', '0']⟩, ?_, by decide⟩
    exact
      { whole := by decide
        fraction := by decide
        some_digit := by decide
        eq_or := by decide +kernel }
  have hNe : " 01.50" ≠ oneAndHalf.shortText := by decide +kernel
  rcases shortText_canonical.2 _ _ _ _ hPadded hTerse with
    ⟨⟨p, hp⟩, ⟨q, hq⟩, hSame⟩
  have hEq := (hSame p q hp hq).mp rfl
  have hWritten := (shortText_canonical.1 oneAndHalf).2
  refine ⟨⟨p, hp, ?_⟩, hWritten.shortest _ hPadded hWhole hNe⟩
  rw [hEq]
  exact hq

end Amount

end Remit
