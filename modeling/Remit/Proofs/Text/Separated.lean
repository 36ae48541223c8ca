import Remit.Text.Numeral
import Remit.Text.Search

/-
  This file shows when what stands before a separator can be
  told from what follows, what the parts between separators are,
  what follows a leading part, and that numerals hold no
  separators.

  Key definitions include:
    * `Text.IsJoined`

  Key theorems include:
    * `Text.append_sep_inj`
    * `Text.flatMap_sep_inj`
    * `Text.intercalate_inj`
    * `Text.not_mem_intercalate`
    * `Text.split_eq_splitOn`
    * `Text.length_split`
    * `Text.isJoined_iff`
    * `Text.after?_eq_some_iff`
    * `Numeral.toList_ofInt_inj`
    * `Numeral.not_mem_ofNat`
    * `Numeral.not_mem_ofInt`
-/

namespace Remit

------------------------------------------------------------
-- Separators
------------------------------------------------------------

namespace Text

/-
  Without the separator in front of it, the first separator
  tells the parts apart.
-/
theorem append_sep_inj
    {sep : Char}
    {cs ds cs' ds' : List Char}
    (hc : sep ∉ cs)
    (hd : sep ∉ ds)
    (h : cs ++ sep :: cs' = ds ++ sep :: ds') :
    cs = ds ∧ cs' = ds' := by
  have hSplit := congrArg (List.splitOn sep) h
  rw [List.splitOn_append_cons_self_of_not_mem hc,
    List.splitOn_append_cons_self_of_not_mem hd] at hSplit
  have hFront : cs = ds := (List.cons.inj hSplit).1
  subst hFront
  exact ⟨rfl, (List.cons.inj (List.append_cancel_left h)).2⟩

/-
  Parts without the separator can be told from what they make
  when each is ended by one. The induction is on one list of
  parts, as long as the other.
-/
theorem flatMap_sep_inj
    {sep : Char}
    {ls ms : List (List Char)}
    (hl : ∀ l ∈ ls, sep ∉ l)
    (hm : ∀ m ∈ ms, sep ∉ m)
    (h :
      ls.flatMap (fun l => l ++ [sep]) =
        ms.flatMap (fun m => m ++ [sep])) :
    ls = ms := by
  induction ls generalizing ms with
  | nil =>
      cases ms with
      | nil => rfl
      | cons m ms => simp at h
  | cons l ls ih =>
      cases ms with
      | nil => simp at h
      | cons m ms =>
          rw [List.flatMap_cons, List.flatMap_cons,
            List.append_assoc, List.append_assoc] at h
          rcases append_sep_inj (hl l List.mem_cons_self)
              (hm m List.mem_cons_self) h with
            ⟨rfl, hRest⟩
          rw [ih (fun k hk => hl k (List.mem_cons_of_mem l hk))
            (fun k hk => hm k (List.mem_cons_of_mem l hk)) hRest]

/- Parts without the separator can be told from what they make. -/
theorem intercalate_inj
    {sep : Char}
    {ls ms : List (List Char)}
    (hl : ∀ l ∈ ls, sep ∉ l)
    (hm : ∀ m ∈ ms, sep ∉ m)
    (hlNonempty : ls ≠ [])
    (hmNonempty : ms ≠ [])
    (h : [sep].intercalate ls = [sep].intercalate ms) :
    ls = ms := by
  rw [← List.splitOn_intercalate sep hl hlNonempty, h,
    List.splitOn_intercalate sep hm hmNonempty]

/- What is joined holds the separator and parts only. -/
theorem not_mem_intercalate
    {sep c : Char}
    {ls : List (List Char)}
    (hSep : c ≠ sep)
    (hl : ∀ l ∈ ls, c ∉ l) :
    c ∉ [sep].intercalate ls := by
  induction ls with
  | nil => exact List.not_mem_nil
  | cons l ls ih =>
      have hFirst : c ∉ l := hl l List.mem_cons_self
      cases ls with
      | nil =>
          rw [List.intercalate_singleton]
          exact hFirst
      | cons m ms =>
          have hRest : c ∉ [sep].intercalate (m :: ms) :=
            ih (fun k hk => hl k (List.mem_cons_of_mem l hk))
          rw [List.intercalate_cons_cons, List.mem_append,
            List.mem_append, List.mem_singleton]
          rintro ((h | h) | h)
          · exact hFirst h
          · exact hSep h
          · exact hRest h

/- The parts are those that lists are split into. -/
theorem split_eq_splitOn
    (sep : Char)
    (cs : List Char) :
    split sep cs = cs.splitOn sep := by
  induction cs with
  | nil => exact (List.splitOn_nil sep).symm
  | cons c cs ih =>
      rw [split, List.splitOn_cons_eq_if_modifyHead, ih]
      simp only [beq_iff_eq]
      split
      · rfl
      · cases hParts : cs.splitOn sep with
        | nil => exact absurd hParts (List.splitOn_ne_nil sep cs)
        | cons part parts => rfl

/- There is one part more than there are separators. -/
theorem length_split
    (sep : Char)
    (cs : List Char) :
    (split sep cs).length = cs.count sep + 1 := by
  rw [split_eq_splitOn]
  induction cs with
  | nil => rfl
  | cons c cs ih =>
      rw [List.splitOn_cons_eq_if_modifyHead, List.count_cons]
      split
      · rw [List.length_cons, ih]
      · rw [List.length_modifyHead, ih, Nat.add_zero]

/- The parts hold no separators. -/
theorem not_mem_of_mem_split
    {sep : Char}
    {cs : List Char} :
    ∀ part ∈ split sep cs, sep ∉ part := by
  induction cs with
  | nil =>
      intro part hPart
      rw [List.mem_singleton.mp hPart]
      exact List.not_mem_nil
  | cons c cs ih =>
      unfold split
      split
      · exact List.forall_mem_cons.mpr ⟨List.not_mem_nil, ih⟩
      · rename_i hc
        split
        · rename_i hNil
          exact absurd hNil (split_ne_nil sep cs)
        · rename_i first rest hParts
          rw [hParts] at ih
          rcases List.forall_mem_cons.mp ih with ⟨hFirst, hRest⟩
          refine List.forall_mem_cons.mpr ⟨?_, hRest⟩
          intro hMem
          rcases List.mem_cons.mp hMem with hSep | hMem
          · exact hc hSep.symm
          · exact hFirst hMem

/- Parts without the separator make a text, joined by separators. -/
def IsJoined
    (sep : Char)
    (parts : List (List Char))
    (cs : List Char) : Prop :=
  parts ≠ [] ∧ (∀ part ∈ parts, sep ∉ part) ∧
    cs = [sep].intercalate parts

/- The parts that make a text are those it is split into. -/
theorem isJoined_iff
    {sep : Char}
    {parts : List (List Char)}
    {cs : List Char} :
    IsJoined sep parts cs ↔ parts = split sep cs := by
  constructor
  · rintro ⟨hSome, hParts, rfl⟩
    rw [split_eq_splitOn, List.splitOn_intercalate sep hParts hSome]
  · rintro rfl
    refine ⟨split_ne_nil sep cs, not_mem_of_mem_split, ?_⟩
    rw [split_eq_splitOn, List.intercalate_splitOn]

------------------------------------------------------------
-- Leading Parts
------------------------------------------------------------

/- What follows a leading part makes the text behind it. -/
theorem after?_eq_some_iff
    {lead cs rest : List Char} :
    after? lead cs = some rest ↔ cs = lead ++ rest := by
  constructor
  · intro h
    unfold after? at h
    split at h
    · rename_i hLead
      rw [← Option.some.inj h]
      exact
        (List.prefix_iff_eq_append.mp
          (List.isPrefixOf_iff_prefix.mp hLead)).symm
    · cases h
  · rintro rfl
    exact after?_append lead rest

end Text

------------------------------------------------------------
-- Numerals
------------------------------------------------------------

namespace Numeral

/- The numeral of a number holds digits only. -/
theorem not_mem_ofNat
    {c : Char}
    (hc : c.isDigit = false)
    (n : Nat) :
    c ∉ (ofNat n).toList := by
  intro h
  rw [ofNat, String.toList_ofList] at h
  have hDigit := isDigits_digits n c h
  rw [hc] at hDigit
  cases hDigit

/- The numeral of an integer holds digits and a minus sign only. -/
theorem not_mem_ofInt
    {c : Char}
    (hc : c.isDigit = false)
    (hMinus : c ≠ '-')
    (k : Int) :
    c ∉ (ofInt k).toList := by
  cases k with
  | ofNat n => exact not_mem_ofNat hc n
  | negSucc n =>
      rw [ofInt, String.toList_ofList]
      intro h
      rcases List.mem_cons.mp h with h | h
      · exact hMinus h
      · have hDigit := isDigits_digits (n + 1) c h
        rw [hc] at hDigit
        cases hDigit

/- Numbers with the same numeral are the same. -/
theorem toList_ofNat_inj
    {m n : Nat}
    (h : (ofNat m).toList = (ofNat n).toList) :
    m = n := by
  rw [ofNat, ofNat, String.toList_ofList,
    String.toList_ofList] at h
  exact digits_inj.mp h

/- Integers with the same numeral are the same. -/
theorem toList_ofInt_inj
    {j k : Int}
    (h : (ofInt j).toList = (ofInt k).toList) :
    j = k := by
  have hSign :
      ∀ m n : Nat,
        (ofNat m).toList ≠ '-' :: digits (n + 1) := by
    intro m n hEq
    apply not_mem_ofNat (c := '-') rfl m
    rw [hEq]
    exact List.mem_cons_self
  cases j with
  | ofNat m =>
      cases k with
      | ofNat n => rw [toList_ofNat_inj h]
      | negSucc n =>
          rw [ofInt, ofInt, String.toList_ofList] at h
          exact (hSign m n h).elim
  | negSucc m =>
      cases k with
      | ofNat n =>
          rw [ofInt, ofInt, String.toList_ofList] at h
          exact (hSign n m h.symm).elim
      | negSucc n =>
          rw [ofInt, ofInt, String.toList_ofList,
            String.toList_ofList] at h
          have hDigits := digits_inj.mp (List.cons.inj h).2
          rw [Nat.succ.inj hDigits]

end Numeral

end Remit
