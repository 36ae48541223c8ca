import Remit.Proofs.Scope.Choice
import Remit.Proofs.Scope.Text
import Remit.Proofs.Text.Signed

/-
  This file states which texts name a scope and shows that
  exactly these are read, as the scopes that they name. Any
  other text is refused: for naming no address if all that it
  lists is blank, and as unreadable otherwise. The written form
  of a proper scope names it, so it is read back.

  Key definitions include:
    * `Scope.Lists`
    * `Scope.Spells`
    * `Scope.SpellsNone`
    * `Scope.IsReading`

  Key theorems include:
    * `Scope.readIds?_eq_some_iff`
    * `Scope.readList_cases`
    * `Scope.readList_eq_ok_iff`
    * `Scope.readList_eq_empty_iff`
    * `Scope.readList_eq_unreadable_iff`
    * `Scope.spells_text`
    * `Scope.ofText_text`
    * `Scope.isReading_ofText`
-/

namespace Remit

------------------------------------------------------------
-- Letter Case
------------------------------------------------------------

namespace Text

/- A small letter comes 32 code points behind its capital. -/
private theorem toNat_toLower
    (c : Char) :
    c.toLower.toNat =
      if 65 ≤ c.toNat ∧ c.toNat ≤ 90 then c.toNat + 32 else c.toNat := by
  unfold Char.toLower
  simp only [ge_iff_le, UInt32.le_iff_toNat_le]
  split
  · rename_i h
    have hUpper : 65 ≤ c.toNat ∧ c.toNat ≤ 90 := h
    rw [if_pos hUpper]
    have hOn : ('a'.val - 'A'.val).toNat = 32 := by decide
    change (c.val + ('a'.val - 'A'.val)).toNat = _
    rw [UInt32.toNat_add, hOn, Char.toNat_val]
    omega
  · rename_i h
    have hOther : ¬ (65 ≤ c.toNat ∧ c.toNat ≤ 90) := h
    rw [if_neg hOther]

/- A capital comes 32 code points before its small letter. -/
private theorem toNat_toUpper
    (c : Char) :
    c.toUpper.toNat =
      if 97 ≤ c.toNat ∧ c.toNat ≤ 122 then c.toNat - 32 else c.toNat := by
  unfold Char.toUpper
  simp only [UInt32.le_iff_toNat_le]
  split
  · rename_i h
    have hLower : 97 ≤ c.toNat ∧ c.toNat ≤ 122 := h
    rw [if_pos hLower]
    have hBack : ('A'.val - 'a'.val).toNat = 2 ^ 32 - 32 := by decide
    change (c.val + ('A'.val - 'a'.val)).toNat = _
    rw [UInt32.toNat_add, hBack, Char.toNat_val]
    omega
  · rename_i h
    have hOther : ¬ (97 ≤ c.toNat ∧ c.toNat ≤ 122) := h
    rw [if_neg hOther]

/- A character is made a small letter from that or its capital. -/
private theorem toLower_eq_iff
    {c l : Char}
    (h : l.toLower = l) :
    c.toLower = l ↔ c = l ∨ c = l.toUpper := by
  have hSmall := toNat_toLower l
  rw [h] at hSmall
  rw [← Char.toNat_inj, ← Char.toNat_inj, ← Char.toNat_inj,
    toNat_toLower, toNat_toUpper]
  split at hSmall <;> split <;> split <;> omega

/-
  Characters are made a word of small letters if each of them is
  the letter at its place or the capital of that.
-/
theorem map_toLower_eq_iff
    {cs word : List Char}
    (h : ∀ l ∈ word, l.toLower = l) :
    cs.map Char.toLower = word ↔
      List.Forall₂ (fun c l => c = l ∨ c = l.toUpper) cs word := by
  induction word generalizing cs with
  | nil => rw [List.map_eq_nil_iff, List.forall₂_nil_right_iff]
  | cons l word ih =>
      rcases List.forall_mem_cons.mp h with ⟨hLetter, hWord⟩
      cases cs with
      | nil => exact iff_of_false nofun nofun
      | cons c cs =>
          rw [List.map_cons, List.cons.injEq, List.forall₂_cons,
            toLower_eq_iff hLetter, ih hWord]

end Text

namespace Scope

variable {cs rest : List Char} {s : Scope} {ids : List Int64}

------------------------------------------------------------
-- What Names a Scope
------------------------------------------------------------

/- The identifiers of parts, in order; blank parts have none. -/
inductive Lists : List (List Char) → List Int64 → Prop where
| nil : Lists [] []
| blank
    {part : List Char}
    {parts : List (List Char)}
    {ids : List Int64}
    (hBlank : ∀ c ∈ part, Text.IsBlank c)
    (hRest : Lists parts ids) :
    Lists (part :: parts) ids
| id
    {part : List Char}
    {parts : List (List Char)}
    {id : Int64}
    {ids : List Int64}
    (hId : Numeral.IsSigned (Text.trimList part) id)
    (hRest : Lists parts ids) :
    Lists (part :: parts) (id :: ids)

/-
  Characters name a scope: a word in any letter case for all
  funds; one identifier behind the word for a key; or, behind
  that for addresses, parts between commas of which at least one
  is an identifier and the others are blank.
-/
inductive Spells : List Char → Scope → Prop where
| auto
    {cs : List Char}
    (hWord :
      List.Forall₂ (fun c l => c = l ∨ c = l.toUpper) cs
        "auto".toList) :
    Spells cs auto
| key
    {rest : List Char}
    {id : Int64}
    (hId : Numeral.IsSigned (Text.trimList rest) id) :
    Spells ("key:".toList ++ rest) (key id)
| addresses
    {rest : List Char}
    {parts : List (List Char)}
    {ids : List Int64}
    (hParts : Text.IsJoined ',' parts rest)
    (hIds : Lists parts ids)
    (hSome : ids ≠ []) :
    Spells ("addresses:".toList ++ rest) (addresses (.ofList ids))

/- Behind the word for addresses all parts are blank. -/
def SpellsNone (cs : List Char) : Prop :=
  ∃ rest parts, cs = "addresses:".toList ++ rest ∧
    Text.IsJoined ',' parts rest ∧
      ∀ part ∈ parts, ∀ c ∈ part, Text.IsBlank c

/- What is named is proper. -/
theorem Spells.isProper
    (h : Spells cs s) :
    s.IsProper := by
  cases h with
  | auto hWord => exact isProper_auto
  | key hId => exact nofun
  | addresses hParts hIds hSome =>
      have hOk := ofAddresses_eq_ok_iff.mpr ⟨hSome, rfl⟩
      exact isProper_of_ofAddresses hOk

/- Parts list no identifier if all of them are blank. -/
theorem lists_nil_iff
    {parts : List (List Char)} :
    Lists parts [] ↔ ∀ part ∈ parts, ∀ c ∈ part, Text.IsBlank c := by
  induction parts with
  | nil => exact iff_of_true .nil nofun
  | cons part parts ih =>
      rw [List.forall_mem_cons, ← ih]
      constructor
      · intro h
        cases h with
        | blank hBlank hRest => exact ⟨hBlank, hRest⟩
      · rintro ⟨hBlank, hRest⟩
        exact .blank hBlank hRest

------------------------------------------------------------
-- Reading Identifiers
------------------------------------------------------------

/-
  Parts are read one by one once blank ones are left out. The
  induction is on the parts.
-/
private theorem mapM_signed?_eq_some_iff
    {parts : List (List Char)} :
    ((parts.map Text.trimList).filter (· ≠ [])).mapM
        Numeral.signed? = some ids ↔
      Lists parts ids := by
  induction parts generalizing ids with
  | nil =>
      constructor
      · intro h
        cases h
        exact .nil
      · intro h
        cases h
        rfl
  | cons part parts ih =>
      by_cases hBlank : Text.trimList part = []
      · have hSkip : ¬ decide (Text.trimList part ≠ []) = true := by
          rw [decide_eq_true_eq]
          exact not_not.mpr hBlank
        rw [List.map_cons, List.filter_cons, if_neg hSkip, ih]
        constructor
        · exact .blank (Text.trimList_eq_nil_iff.mp hBlank)
        · intro h
          cases h with
          | blank _ hRest => exact hRest
          | id hId _ =>
              rw [hBlank, ← Numeral.signed?_eq_some_iff] at hId
              cases hId
      · have hTake : decide (Text.trimList part ≠ []) = true :=
          decide_eq_true hBlank
        rw [List.map_cons, List.filter_cons, if_pos hTake,
          List.mapM_cons]
        simp only [Option.bind_eq_bind, Option.bind_eq_some_iff,
          Numeral.signed?_eq_some_iff, ih]
        constructor
        · rintro ⟨id, hId, rest, hRest, hIds⟩
          cases hIds
          exact .id hId hRest
        · intro h
          cases h with
          | blank hAll _ =>
              exact absurd (Text.trimList_eq_nil_iff.mpr hAll) hBlank
          | id hId hRest => exact ⟨_, hId, _, hRest, rfl⟩

/- Identifiers are read from the parts that list them. -/
theorem readIds?_eq_some_iff :
    readIds? cs = some ids ↔
      ∃ parts, Text.IsJoined ',' parts cs ∧ Lists parts ids := by
  simp only [Text.isJoined_iff, exists_eq_left]
  exact mapM_signed?_eq_some_iff

/- None are read exactly if all parts are blank. -/
theorem readIds?_eq_nil_iff :
    readIds? cs = some [] ↔
      ∃ parts, Text.IsJoined ',' parts cs ∧
        ∀ part ∈ parts, ∀ c ∈ part, Text.IsBlank c := by
  rw [readIds?_eq_some_iff]
  simp only [lists_nil_iff]

------------------------------------------------------------
-- Reading Scopes
------------------------------------------------------------

/- The word for all funds is read as these. -/
private theorem readList_auto
    (h : cs.map Char.toLower = "auto".toList) :
    readList cs = .ok auto := by
  unfold readList
  exact if_pos h

/- Behind the word for a key its identifier is read. -/
private theorem readList_key
    (rest : List Char) :
    readList ("key:".toList ++ rest) =
      match Numeral.signed? (Text.trimList rest) with
      | some id => .ok (key id)
      | none =>
          .error
            (.unreadable (String.ofList ("key:".toList ++ rest))) := by
  have hWord :
      ("key:".toList ++ rest).map Char.toLower ≠ "auto".toList :=
    fun h => absurd (List.cons.inj h).1 (by decide)
  unfold readList
  cases hId : Numeral.signed? (Text.trimList rest) with
  | none => simp only [if_neg hWord, Text.after?_append, hId]
  | some id => simp only [if_neg hWord, Text.after?_append, hId]

/- Behind the word for addresses their identifiers are read. -/
private theorem readList_addresses
    (rest : List Char) :
    readList ("addresses:".toList ++ rest) =
      match readIds? rest with
      | some ids => ofAddresses ids
      | none =>
          .error
            (.unreadable
              (String.ofList ("addresses:".toList ++ rest))) := by
  have hWord :
      ("addresses:".toList ++ rest).map Char.toLower ≠
        "auto".toList :=
    fun h =>
      absurd (List.cons.inj (List.cons.inj h).2).1 (by decide)
  have hKey :
      Text.after? "key:".toList ("addresses:".toList ++ rest) = none :=
    rfl
  unfold readList
  cases hIds : readIds? rest with
  | none => simp only [if_neg hWord, hKey, Text.after?_append, hIds]
  | some ids => simp only [if_neg hWord, hKey, Text.after?_append, hIds]

/- What begins with none of the words is unreadable. -/
private theorem readList_other
    (hWord : cs.map Char.toLower ≠ "auto".toList)
    (hKey : ¬ ∃ rest, cs = "key:".toList ++ rest)
    (hAddresses : ¬ ∃ rest, cs = "addresses:".toList ++ rest) :
    readList cs = .error (.unreadable (String.ofList cs)) := by
  have hNone :
      ∀ lead : List Char, (¬ ∃ rest, cs = lead ++ rest) →
        Text.after? lead cs = none := by
    intro lead hLead
    cases hAfter : Text.after? lead cs with
    | none => rfl
    | some rest =>
        exact absurd ⟨rest, Text.after?_eq_some_iff.mp hAfter⟩ hLead
  unfold readList
  rw [if_neg hWord, hNone _ hKey, hNone _ hAddresses]

/- The word for all funds has small letters. -/
private theorem toLower_auto :
    ∀ l ∈ "auto".toList, l.toLower = l :=
  List.map_inj_left (g := id).mp (by decide)

/-
  Whatever is read was named, and so was a choice of no address;
  the rest is unreadable. The cases are the words that the
  characters may begin with.
-/
theorem readList_cases
    (cs : List Char) :
    (∃ s, readList cs = .ok s ∧ Spells cs s) ∨
      (readList cs = .error .emptySelection ∧ SpellsNone cs) ∨
        readList cs = .error (.unreadable (String.ofList cs)) := by
  by_cases hWord : cs.map Char.toLower = "auto".toList
  · have hLetters := (Text.map_toLower_eq_iff toLower_auto).mp hWord
    exact Or.inl ⟨auto, readList_auto hWord, .auto hLetters⟩
  · by_cases hKey : ∃ rest, cs = "key:".toList ++ rest
    · rcases hKey with ⟨rest, rfl⟩
      rw [readList_key]
      cases hRead : Numeral.signed? (Text.trimList rest) with
      | none => exact Or.inr (Or.inr rfl)
      | some id =>
          have hId := Numeral.signed?_eq_some_iff.mp hRead
          exact Or.inl ⟨key id, rfl, .key hId⟩
    · by_cases hAddresses : ∃ rest, cs = "addresses:".toList ++ rest
      · rcases hAddresses with ⟨rest, rfl⟩
        rw [readList_addresses]
        cases hRead : readIds? rest with
        | none => exact Or.inr (Or.inr rfl)
        | some ids =>
            by_cases hIds : ids = []
            · subst hIds
              rcases readIds?_eq_nil_iff.mp hRead with
                ⟨parts, hParts, hBlank⟩
              exact
                Or.inr
                  (Or.inl
                    ⟨ofAddresses_eq_error_iff.mpr ⟨rfl, rfl⟩,
                      rest, parts, rfl, hParts, hBlank⟩)
            · rcases readIds?_eq_some_iff.mp hRead with
                ⟨parts, hParts, hLists⟩
              exact
                Or.inl
                  ⟨_, ofAddresses_eq_ok_iff.mpr ⟨hIds, rfl⟩,
                    .addresses hParts hLists hIds⟩
      · exact
          Or.inr (Or.inr (readList_other hWord hKey hAddresses))

/- What names a scope is read as that. -/
theorem Spells.readList_eq
    (h : Spells cs s) :
    readList cs = .ok s := by
  cases h with
  | auto hWord =>
      have hLower := (Text.map_toLower_eq_iff toLower_auto).mpr hWord
      exact readList_auto hLower
  | key hId => rw [readList_key, Numeral.signed?_eq_some_iff.mpr hId]
  | addresses hParts hIds hSome =>
      have hRead := readIds?_eq_some_iff.mpr ⟨_, hParts, hIds⟩
      rw [readList_addresses, hRead]
      exact ofAddresses_eq_ok_iff.mpr ⟨hSome, rfl⟩

/- What names no address is refused for that. -/
theorem SpellsNone.readList_eq
    (h : SpellsNone cs) :
    readList cs = .error .emptySelection := by
  rcases h with ⟨rest, parts, rfl, hParts, hBlank⟩
  have hRead := readIds?_eq_nil_iff.mpr ⟨parts, hParts, hBlank⟩
  rw [readList_addresses, hRead]
  exact ofAddresses_eq_error_iff.mpr ⟨rfl, rfl⟩

/- Exactly what names a scope is read, as the scope that it names. -/
theorem readList_eq_ok_iff :
    readList cs = .ok s ↔ Spells cs s := by
  refine ⟨fun h => ?_, Spells.readList_eq⟩
  rcases readList_cases cs with ⟨t, hOk, hSpells⟩ | ⟨hNone, _⟩ | hNot
  · rw [hOk] at h
    cases h
    exact hSpells
  · rw [hNone] at h
    cases h
  · rw [hNot] at h
    cases h

/- A text is refused for naming no address if its parts are blank. -/
theorem readList_eq_empty_iff :
    readList cs = .error .emptySelection ↔ SpellsNone cs := by
  refine ⟨fun h => ?_, SpellsNone.readList_eq⟩
  rcases readList_cases cs with ⟨t, hOk, _⟩ | ⟨_, hSpells⟩ | hNot
  · rw [hOk] at h
    cases h
  · exact hSpells
  · rw [hNot] at h
    cases h

/- It is unreadable exactly if it names neither. -/
theorem readList_eq_unreadable_iff :
    readList cs = .error (.unreadable (String.ofList cs)) ↔
      (∀ s, ¬ Spells cs s) ∧ ¬ SpellsNone cs := by
  constructor
  · intro h
    refine ⟨fun s hSpells => ?_, fun hNone => ?_⟩
    · cases hSpells.readList_eq.symm.trans h
    · cases hNone.readList_eq.symm.trans h
  · rintro ⟨hScope, hNone⟩
    rcases readList_cases cs with ⟨s, _, hSpells⟩ | ⟨_, hSpells⟩ | hNot
    · exact absurd hSpells (hScope s)
    · exact absurd hSpells hNone
    · exact hNot

------------------------------------------------------------
-- Written Forms
------------------------------------------------------------

/- Numerals have no blanks to leave out. -/
private theorem trimList_ofInt
    (id : Int64) :
    Text.trimList (Numeral.ofInt id.toInt).toList =
      (Numeral.ofInt id.toInt).toList := by
  apply Text.trimList_of_not_isBlank
  intro c hc hBlank
  have hNot := not_mem_text_of_isBlank hBlank (key id)
  change c ∉ ("key:" ++ Numeral.ofInt id.toInt).toList at hNot
  rw [String.toList_append] at hNot
  exact hNot (List.mem_append_right _ hc)

/- The numeral of an identifier denotes it, trimmed or not. -/
private theorem isSigned_trimList_ofInt
    (id : Int64) :
    Numeral.IsSigned
      (Text.trimList (Numeral.ofInt id.toInt).toList) id := by
  rw [trimList_ofInt]
  exact Numeral.isSigned_ofInt id

/- The numerals of identifiers list these. -/
private theorem lists_numerals
    (ids : List Int64) :
    Lists (ids.map (fun id => (Numeral.ofInt id.toInt).toList)) ids := by
  induction ids with
  | nil => exact .nil
  | cons id ids ih => exact .id (isSigned_trimList_ofInt id) ih

/- The written form of a proper scope names it. -/
theorem spells_text
    (h : s.IsProper) :
    Spells s.text.toList s := by
  cases s with
  | auto =>
      refine .auto ((Text.map_toLower_eq_iff toLower_auto).mp ?_)
      decide
  | key id =>
      change Spells ("key:" ++ Numeral.ofInt id.toInt).toList _
      rw [String.toList_append]
      exact .key (isSigned_trimList_ofInt id)
  | addresses ids =>
      have hSome : ids.toList ≠ [] := h ids rfl
      have hNumerals : numerals ids ≠ [] :=
        fun hNil => hSome (List.map_eq_nil_iff.mp hNil)
      have hComma := not_mem_numerals (c := ',') rfl (by decide) ids
      change Spells ("addresses:" ++ idsText ids).toList _
      rw [String.toList_append, toList_idsText]
      have hSpells :=
        Spells.addresses ⟨hNumerals, hComma, rfl⟩
          (lists_numerals ids.toList) hSome
      rw [IdSet.ofList_toList] at hSpells
      exact hSpells

/- A proper scope is read back from its text. -/
theorem ofText_text
    (h : s.IsProper) :
    ofText s.text = .ok s := by
  have hTrim : Text.trimList s.text.toList = s.text.toList :=
    Text.trimList_of_not_isBlank
      (fun c hc hBlank => not_mem_text_of_isBlank hBlank s hc)
  unfold ofText
  rw [hTrim]
  exact readList_eq_ok_iff.mpr (spells_text h)

------------------------------------------------------------
-- What a Text Is Read As
------------------------------------------------------------

/-
  What a text is read as: the scope that its trimmed characters
  name, which is read back from the one text that is written for
  it; or a failure, for naming no address exactly if all that is
  listed is blank, and as unreadable if nothing is named.
-/
structure IsReading
    (text : String)
    (r : Except ScopeError Scope) : Prop where
  ok_iff : ∀ s, r = .ok s ↔ Spells (Text.trimList text.toList) s
  empty_iff :
    r = .error .emptySelection ↔
      SpellsNone (Text.trimList text.toList)
  unreadable_iff :
    r = .error (.unreadable (Text.trim text)) ↔
      (∀ s, ¬ Spells (Text.trimList text.toList) s) ∧
        ¬ SpellsNone (Text.trimList text.toList)
  again :
    ∀ s, r = .ok s →
      ofText s.text = .ok s ∧ ∀ t : Scope, t.text = s.text → t = s

/-
  Every proper scope is read back from its text, and every text
  is read as what it names.
-/
theorem isReading_ofText
    (hProper : s.IsProper)
    (text : String) :
    ofText s.text = .ok s ∧ IsReading text (ofText text) := by
  refine ⟨ofText_text hProper, ?_⟩
  exact
    { ok_iff := fun _ => readList_eq_ok_iff
      empty_iff := readList_eq_empty_iff
      unreadable_iff := readList_eq_unreadable_iff
      again := fun s hRead =>
        ⟨ofText_text (readList_eq_ok_iff.mp hRead).isProper,
          fun _ hText => text_injective hText⟩ }

/- The addresses with the least and with the greatest identifier. -/
def farthest : Scope :=
  addresses (.ofList [Int64.maxValue, Int64.minValue])

/-
  Both are read back, and a list with signs, blanks and the same
  identifier twice is read as the addresses in it.
-/
theorem isReading_ofText_farthest :
    farthest.IsProper ∧
      ofText farthest.text = .ok farthest ∧
        IsReading " addresses: +7,,-0 , 07\n"
          (.ok (addresses (.ofList [0, 7]))) := by
  have hProper : farthest.IsProper := isProper_iff.mpr (by decide)
  have hRead :
      ofText " addresses: +7,,-0 , 07\n" =
        .ok (addresses (.ofList [0, 7])) := by
    decide +kernel
  have hReading :=
    isReading_ofText hProper " addresses: +7,,-0 , 07\n"
  rw [hRead] at hReading
  exact ⟨hProper, hReading⟩

end Scope

end Remit
