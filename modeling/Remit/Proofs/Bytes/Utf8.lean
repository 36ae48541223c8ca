import Remit.Bytes.Utf8

/-
  This file shows that bytes are read as a text exactly if they
  are its UTF-8 form, so that no bytes spell two texts and every
  text can be read back.

  Key definitions include:
    * `Utf8.spelling`

  Key theorems include:
    * `Utf8.map_toNat_encodeChar`
    * `Utf8.two?_eq_some_iff`
    * `Utf8.three?_eq_some_iff`
    * `Utf8.four?_eq_some_iff`
    * `Utf8.exists_of_readFrom`
    * `Utf8.decode?_eq_some_iff`
-/

namespace Remit.Utf8

variable {a b c d : UInt8} {x : Char}

------------------------------------------------------------
-- Code Points
------------------------------------------------------------

/- A byte that continues a character holds six bits of it. -/
theorem exists_continuation?_iff
    {P : Nat → Prop} :
    (∃ n, continuation? b = some n ∧ P n) ↔
      0x80 ≤ b.toNat ∧ b.toNat < 0xc0 ∧ P (b.toNat - 0x80) := by
  have hBounds :
      0x80 ≤ b ∧ b < 0xc0 ↔ 128 ≤ b.toNat ∧ b.toNat < 192 := by
    rw [UInt8.le_iff_toNat_le, UInt8.lt_iff_toNat_lt]
    exact Iff.rfl
  unfold continuation?
  simp only [hBounds]
  split
  · rename_i h
    simp only [Option.some.injEq, exists_eq_left', h, true_and]
  · rename_i h
    rw [← and_assoc]
    exact iff_of_false nofun (fun hb => h hb.1)

/- A code point above a least one makes the character that has it. -/
theorem character?_eq_some_iff
    {least point : Nat} :
    character? least point = some x ↔
      x.toNat = point ∧ least ≤ point := by
  unfold character?
  by_cases h : point.isValidChar
  · have hSame : Char.ofNatAux point h = x ↔ x.toNat = point := by
      rw [← Char.toNat_inj, eq_comm]
      exact Iff.rfl
    rw [dif_pos h]
    by_cases hLeast : least ≤ point
    · rw [if_pos hLeast, Option.some.injEq, hSame,
        and_iff_left hLeast]
    · rw [if_neg hLeast]
      exact iff_of_false (Option.some_ne_none x).symm
        (fun hx => hLeast hx.2)
  · rw [dif_neg h]
    refine iff_of_false (Option.some_ne_none x).symm ?_
    intro hx
    apply h
    rw [← hx.1]
    exact x.valid

/- There are seventeen planes of code points. -/
private theorem toNat_lt
    (x : Char) :
    x.toNat < 0x110000 := by
  have hValid :
      x.toNat < 0xd800 ∨ 0xdfff < x.toNat ∧ x.toNat < 0x110000 :=
    x.valid
  omega

------------------------------------------------------------
-- Characters
------------------------------------------------------------

/- The bytes of the character with a code point, as numbers. -/
def spelling (point : Nat) : List Nat :=
  if point < 0x80 then
    [point]
  else if point < 0x800 then
    [point / 0x40 + 0xc0, point % 0x40 + 0x80]
  else if point < 0x10000 then
    [point / 0x1000 + 0xe0, point / 0x40 % 0x40 + 0x80,
     point % 0x40 + 0x80]
  else
    [point / 0x40000 + 0xf0, point / 0x1000 % 0x40 + 0x80,
     point / 0x40 % 0x40 + 0x80, point % 0x40 + 0x80]

/- These are the bytes that a character is written with. -/
theorem map_toNat_encodeChar
    (x : Char) :
    (String.utf8EncodeChar x).map UInt8.toNat =
      spelling x.toNat := by
  have hLt := toNat_lt x
  have hSame : x.val.toNat = x.toNat := rfl
  unfold String.utf8EncodeChar spelling
  simp only [hSame]
  by_cases hOne : x.toNat < 0x80
  · rw [if_pos hOne, if_pos (by omega)]
    simp only [List.map_cons, List.map_nil, UInt8.toNat_ofNat',
      List.cons.injEq, and_true]
    omega
  rw [if_neg hOne, if_neg (by omega)]
  by_cases hTwo : x.toNat < 0x800
  · rw [if_pos hTwo, if_pos (by omega)]
    simp only [List.map_cons, List.map_nil, UInt8.toNat_ofNat',
      List.cons.injEq, and_true]
    omega
  rw [if_neg hTwo, if_neg (by omega)]
  by_cases hThree : x.toNat < 0x10000
  · rw [if_pos hThree, if_pos (by omega)]
    simp only [List.map_cons, List.map_nil, UInt8.toNat_ofNat',
      List.cons.injEq, and_true]
    omega
  rw [if_neg hThree, if_neg (by omega)]
  simp only [List.map_cons, List.map_nil, UInt8.toNat_ofNat',
    List.cons.injEq, and_true]
  omega

/- Bytes write a character exactly if they are its spelling. -/
theorem encodeChar_eq_iff
    {bytes : Bytes} :
    String.utf8EncodeChar x = bytes ↔
      spelling x.toNat = bytes.map UInt8.toNat := by
  rw [← map_toNat_encodeChar]
  exact (List.map_inj_right (fun _ _ => UInt8.toNat_inj.mp)).symm

/- Low bytes spell the characters with their numbers. -/
theorem ofUInt8_eq_iff
    (hLead : a.toNat < 0x80) :
    Char.ofUInt8 a = x ↔ String.utf8EncodeChar x = [a] := by
  have hSame : Char.ofUInt8 a = x ↔ x.toNat = a.toNat := by
    rw [← Char.toNat_inj, eq_comm]
    exact Iff.rfl
  rw [hSame, encodeChar_eq_iff]
  unfold spelling
  grind

/- Two bytes are read as the character that is written with them. -/
theorem two?_eq_some_iff
    (hLead : 0xc0 ≤ a.toNat)
    (hNext : a.toNat < 0xe0) :
    two? a b = some x ↔ String.utf8EncodeChar x = [a, b] := by
  unfold two?
  simp only [bind, Option.bind_eq_some_iff,
    exists_continuation?_iff, character?_eq_some_iff]
  rw [encodeChar_eq_iff]
  unfold spelling
  grind

/- So are three bytes. -/
theorem three?_eq_some_iff
    (hLead : 0xe0 ≤ a.toNat)
    (hNext : a.toNat < 0xf0) :
    three? a b c = some x ↔ String.utf8EncodeChar x = [a, b, c] := by
  unfold three?
  simp only [bind, Option.bind_eq_some_iff,
    exists_continuation?_iff, character?_eq_some_iff]
  rw [encodeChar_eq_iff]
  unfold spelling
  grind

/- So are four bytes. -/
theorem four?_eq_some_iff
    (hLead : 0xf0 ≤ a.toNat) :
    four? a b c d = some x ↔
      String.utf8EncodeChar x = [a, b, c, d] := by
  unfold four?
  simp only [bind, Option.bind_eq_some_iff,
    exists_continuation?_iff, character?_eq_some_iff]
  rw [encodeChar_eq_iff]
  unfold spelling
  grind

/- How many bytes a character is written with, its first byte tells. -/
theorem encodeChar_cases
    (x : Char) :
    (∃ a, a.toNat < 0x80 ∧ String.utf8EncodeChar x = [a]) ∨
      (∃ a b, (0xc0 ≤ a.toNat ∧ a.toNat < 0xe0) ∧
        String.utf8EncodeChar x = [a, b]) ∨
      (∃ a b c, (0xe0 ≤ a.toNat ∧ a.toNat < 0xf0) ∧
        String.utf8EncodeChar x = [a, b, c]) ∨
      ∃ a b c d, (0xf0 ≤ a.toNat ∧ a.toNat < 0xf8) ∧
        String.utf8EncodeChar x = [a, b, c, d] := by
  have hLt := toNat_lt x
  have hMap := map_toNat_encodeChar x
  generalize String.utf8EncodeChar x = bytes at hMap ⊢
  unfold spelling at hMap
  split at hMap
  · rcases List.map_eq_singleton_iff.mp hMap with ⟨a, rfl, ha⟩
    exact Or.inl ⟨a, by omega, rfl⟩
  split at hMap
  · rcases List.map_eq_cons_iff.mp hMap with ⟨a, _, rfl, ha, hMap⟩
    rcases List.map_eq_singleton_iff.mp hMap with ⟨b, rfl, _⟩
    exact Or.inr (Or.inl ⟨a, b, by omega, rfl⟩)
  split at hMap
  · rcases List.map_eq_cons_iff.mp hMap with ⟨a, _, rfl, ha, hMap⟩
    rcases List.map_eq_cons_iff.mp hMap with ⟨b, _, rfl, _, hMap⟩
    rcases List.map_eq_singleton_iff.mp hMap with ⟨c, rfl, _⟩
    exact Or.inr (Or.inr (Or.inl ⟨a, b, c, by omega, rfl⟩))
  · rcases List.map_eq_cons_iff.mp hMap with ⟨a, _, rfl, ha, hMap⟩
    rcases List.map_eq_cons_iff.mp hMap with ⟨b, _, rfl, _, hMap⟩
    rcases List.map_eq_cons_iff.mp hMap with ⟨c, _, rfl, _, hMap⟩
    rcases List.map_eq_singleton_iff.mp hMap with ⟨d, rfl, _⟩
    exact Or.inr (Or.inr (Or.inr ⟨a, b, c, d, by omega, rfl⟩))

------------------------------------------------------------
-- Texts
------------------------------------------------------------

/- What a character is written with is read as the character. -/
theorem readFrom_encodeChar
    (done : List Char)
    (x : Char)
    (rest : Bytes) :
    readFrom done (String.utf8EncodeChar x ++ rest) =
      readFrom (x :: done) rest := by
  rcases encodeChar_cases x with
    ⟨a, hLead, hx⟩ | ⟨a, b, ⟨hLead, hNext⟩, hx⟩ |
      ⟨a, b, c, ⟨hLead, hNext⟩, hx⟩ | ⟨a, b, c, d, ⟨hLead, hNext⟩, hx⟩
  · have hRead := (ofUInt8_eq_iff hLead).mpr hx
    rw [hx, List.singleton_append, readFrom.eq_def]
    simp only [UInt8.lt_iff_toNat_lt, UInt8.reduceToNat]
    rw [if_pos hLead, hRead]
  · have hRead := (two?_eq_some_iff hLead hNext).mpr hx
    rw [hx, readFrom.eq_def]
    simp only [List.cons_append, List.nil_append,
      UInt8.lt_iff_toNat_lt, UInt8.reduceToNat, hRead]
    rw [if_neg (by omega), if_neg (by omega), if_pos hNext]
  · have hRead := (three?_eq_some_iff hLead hNext).mpr hx
    rw [hx, readFrom.eq_def]
    simp only [List.cons_append, List.nil_append,
      UInt8.lt_iff_toNat_lt, UInt8.reduceToNat, hRead]
    rw [if_neg (by omega), if_neg (by omega), if_neg (by omega),
      if_pos hNext]
  · have hRead := (four?_eq_some_iff hLead).mpr hx
    rw [hx, readFrom.eq_def]
    simp only [List.cons_append, List.nil_append,
      UInt8.lt_iff_toNat_lt, UInt8.reduceToNat, hRead]
    rw [if_neg (by omega), if_neg (by omega), if_neg (by omega),
      if_neg (by omega), if_pos hNext]

/- Bytes behind those of a character are read behind it. -/
private theorem exists_cons
    {done cs : List Char}
    {front rest : Bytes}
    (hx : String.utf8EncodeChar x = front)
    (h : ∃ ds, cs = (x :: done).reverse ++ ds ∧
      rest = ds.flatMap String.utf8EncodeChar) :
    ∃ ds, cs = done.reverse ++ ds ∧
      front ++ rest = ds.flatMap String.utf8EncodeChar := by
  rcases h with ⟨ds, rfl, rfl⟩
  refine ⟨x :: ds, ?_, ?_⟩
  · rw [List.reverse_cons, List.append_assoc, List.singleton_append]
  · rw [List.flatMap_cons, hx]

/-
  What is read was written. The induction follows the reading,
  one character at a time.
-/
theorem exists_of_readFrom
    {done cs : List Char}
    {bytes : Bytes}
    (h : readFrom done bytes = some cs) :
    ∃ ds, cs = done.reverse ++ ds ∧
      bytes = ds.flatMap String.utf8EncodeChar := by
  fun_induction readFrom done bytes with
  | case1 done =>
      cases h
      exact ⟨[], (List.append_nil _).symm, rfl⟩
  | case2 done a rest hOne ih =>
      rw [UInt8.lt_iff_toNat_lt] at hOne
      exact exists_cons ((ofUInt8_eq_iff hOne).mp rfl) (ih h)
  | case4 done a hOne hNone hTwo b rest x hRead ih =>
      rw [UInt8.lt_iff_toNat_lt] at hNone hTwo
      have hLead := Nat.le_of_not_lt hNone
      exact exists_cons ((two?_eq_some_iff hLead hTwo).mp hRead) (ih h)
  | case7 done a hOne hNone hTwo hThree b c rest x hRead ih =>
      rw [UInt8.lt_iff_toNat_lt] at hTwo hThree
      have hLead := Nat.le_of_not_lt hTwo
      exact
        exists_cons ((three?_eq_some_iff hLead hThree).mp hRead) (ih h)
  | case10 done a hOne hNone hTwo hThree hFour b c d rest x hRead ih =>
      rw [UInt8.lt_iff_toNat_lt] at hThree
      have hLead := Nat.le_of_not_lt hThree
      exact exists_cons ((four?_eq_some_iff hLead).mp hRead) (ih h)
  | _ => cases h

/- All that was written is read. -/
theorem readFrom_flatMap
    (done cs : List Char) :
    readFrom done (cs.flatMap String.utf8EncodeChar) =
      some (done.reverse ++ cs) := by
  induction cs generalizing done with
  | nil => rw [List.flatMap_nil, readFrom, List.append_nil]
  | cons c cs ih =>
      rw [List.flatMap_cons, readFrom_encodeChar, ih,
        List.reverse_cons, List.append_assoc, List.singleton_append]

/- Bytes are read as a text exactly if they are its form. -/
theorem decode?_eq_some_iff
    {bytes : Bytes}
    {s : String} :
    decode? bytes = some s ↔ bytes = encode s := by
  unfold decode? encode
  rw [Option.map_eq_some_iff]
  constructor
  · rintro ⟨cs, hRead, rfl⟩
    rcases exists_of_readFrom hRead with ⟨ds, rfl, hBytes⟩
    rw [String.toList_ofList]
    exact hBytes
  · rintro rfl
    exact ⟨s.toList, readFrom_flatMap [] _, String.ofList_toList⟩

end Remit.Utf8
