import Remit.Proofs.Address.Grammar
import Remit.Proofs.Text.Trimming

/-
  This file lists what may be wrong with an address, in the
  order in which it is looked for, and shows that a text which
  is not accepted is refused for the first thing on the list
  that is the case. What follows from the grammar stands beside
  it: no text is accepted on two networks, and an accepted text
  is still accepted once it is trimmed.

  Key definitions include:
    * `IsFirst`
    * `Address.findings`

  Key theorems include:
    * `isFirst_of_holds`
    * `isFirst_of_fails`
    * `Address.networkOf?_eq_some_iff`
    * `Address.IsShielded.network_unique`
    * `Address.check_eq_error_iff`
-/

namespace Remit

------------------------------------------------------------
-- The First Finding
------------------------------------------------------------

section First

variable {ε : Type} {P : Prop} {a e : ε}
variable {findings : List (Prop × ε)}

/-
  What is reported for the first of several findings that is the
  case, each with what is reported for it.
-/
def IsFirst (findings : List (Prop × ε)) (e : ε) : Prop :=
  ∃ before P after,
    findings = before ++ (P, e) :: after ∧ P ∧
      ∀ finding ∈ before, ¬ finding.1

/- A finding that is the case settles what is reported. -/
theorem isFirst_of_holds
    (h : P) :
    IsFirst ((P, a) :: findings) e ↔ a = e := by
  constructor
  · rintro ⟨before, Q, after, hEq, _, hNone⟩
    cases before with
    | nil =>
        cases hEq
        rfl
    | cons finding before =>
        cases hEq
        exact absurd h (hNone _ List.mem_cons_self)
  · rintro rfl
    exact ⟨[], P, findings, rfl, h, nofun⟩

/- A finding that is not the case is passed by. -/
theorem isFirst_of_fails
    (h : ¬ P) :
    IsFirst ((P, a) :: findings) e ↔ IsFirst findings e := by
  constructor
  · rintro ⟨before, Q, after, hEq, hQ, hNone⟩
    cases before with
    | nil =>
        cases hEq
        exact absurd hQ h
    | cons finding before =>
        cases hEq
        exact
          ⟨before, Q, after, rfl, hQ,
            (List.forall_mem_cons.mp hNone).2⟩
  · rintro ⟨before, Q, after, rfl, hQ, hNone⟩
    exact
      ⟨(P, a) :: before, Q, after, rfl, hQ,
        List.forall_mem_cons.mpr ⟨h, hNone⟩⟩

/- Without findings nothing is reported. -/
theorem not_isFirst_nil :
    ¬ IsFirst [] e := by
  rintro ⟨before, P, after, hEq, _⟩
  cases before <;> cases hEq

end First

namespace Address

variable {m n : Network} {cs : List Char} {s : String}
variable {e : AddressError}

/-
  What may be wrong with trimmed characters on a network, and
  what is reported for it. The lengths that are reported count
  the opening.
-/
def findings (n : Network) (cs : List Char) :
    List (Prop × AddressError) :=
  [(cs = [], .empty),
   (¬ IsPlain cs, .characters),
   (¬ ∃ m, opening m <+: cs, .lead),
   (∃ m, m ≠ n ∧ opening m <+: cs, .network n),
   (∃ data, cs = opening n ++ data ∧ ¬ IsData data, .characters),
   (∃ data, cs = opening n ++ data ∧
      ¬ (67 ≤ data.length ∧ data.length ≤ 82),
    .size cs.length
      ((opening n).length + 67) ((opening n).length + 82))]

------------------------------------------------------------
-- Networks
------------------------------------------------------------

/- The network that is found is the one whose opening is in front. -/
theorem networkOf?_eq_some_iff :
    networkOf? cs = some n ↔ opening n <+: cs := by
  constructor
  · intro h
    have hFound :=
      List.find?_some (p := fun n => (opening n).isPrefixOf cs) h
    exact List.isPrefixOf_iff_prefix.mp hFound
  · rintro ⟨data, rfl⟩
    exact networkOf?_opening n data

/- No network is found exactly if no opening is in front. -/
theorem networkOf?_eq_none_iff :
    networkOf? cs = none ↔ ¬ ∃ m, opening m <+: cs := by
  simp only [← networkOf?_eq_some_iff, not_exists,
    Option.eq_none_iff_forall_ne_some, ne_eq]

/- One opening at most is in front. -/
theorem opening_prefix_unique
    (hm : opening m <+: cs)
    (hn : opening n <+: cs) :
    m = n := by
  rw [← networkOf?_eq_some_iff] at hm hn
  exact Option.some.inj (hm.symm.trans hn)

/- No characters are an address of two networks. -/
theorem IsShielded.network_unique
    (hm : IsShielded m cs)
    (hn : IsShielded n cs) :
    m = n := by
  rcases hm with ⟨dataM, hM, _⟩
  rcases hn with ⟨dataN, hN, _⟩
  exact opening_prefix_unique ⟨dataM, hM.symm⟩ ⟨dataN, hN.symm⟩

------------------------------------------------------------
-- Refusals
------------------------------------------------------------

/- What follows the opening is the data. -/
private theorem exists_data_iff
    {P : List Char → Prop}
    (h : opening n <+: cs) :
    (∃ data, cs = opening n ++ data ∧ P data) ↔
      P (cs.drop (opening n).length) := by
  rcases h with ⟨data, rfl⟩
  rw [List.drop_left]
  constructor
  · rintro ⟨other, hOther, hP⟩
    rwa [List.append_cancel_left hOther]
  · exact fun hP => ⟨data, rfl, hP⟩

/-
  Trimmed characters are refused for the first finding. The cases
  go down the list, each time with nothing found so far.
-/
theorem checkList_eq_error_iff :
    checkList n cs = .error e ↔ IsFirst (findings n cs) e := by
  unfold checkList findings
  by_cases hEmpty : cs = []
  · rw [if_pos hEmpty, isFirst_of_holds hEmpty, Except.error.injEq]
  rw [if_neg hEmpty, isFirst_of_fails hEmpty]
  by_cases hPlain : ¬ IsPlain cs
  · rw [if_pos hPlain, isFirst_of_holds hPlain, Except.error.injEq]
  rw [if_neg hPlain, isFirst_of_fails hPlain]
  cases hNetwork : networkOf? cs with
  | none =>
      rw [networkOf?_eq_none_iff] at hNetwork
      rw [isFirst_of_holds hNetwork, Except.error.injEq]
  | some found =>
      rw [networkOf?_eq_some_iff] at hNetwork
      rw [isFirst_of_fails (not_not.mpr ⟨found, hNetwork⟩)]
      by_cases hFound : found = n
      · subst hFound
        have hAlone : ¬ ∃ m, m ≠ found ∧ opening m <+: cs := by
          rintro ⟨m, hNe, hm⟩
          exact hNe (opening_prefix_unique hm hNetwork)
        rw [isFirst_of_fails hAlone, exists_data_iff hNetwork,
          exists_data_iff hNetwork]
        simp only [ne_eq, not_true_eq_false, if_false]
        by_cases hData : ¬ IsData (cs.drop (opening found).length)
        · rw [if_pos hData, isFirst_of_holds hData,
            Except.error.injEq]
        rw [if_neg hData, isFirst_of_fails hData]
        by_cases hSize :
            67 ≤ (cs.drop (opening found).length).length ∧
              (cs.drop (opening found).length).length ≤ 82
        · rw [isFirst_of_fails (not_not.mpr hSize), leastData,
            mostData, if_pos hSize]
          exact iff_of_false nofun not_isFirst_nil
        · rw [isFirst_of_holds hSize, leastData, mostData,
            if_neg hSize, Except.error.injEq]
      · have hOther : ∃ m, m ≠ n ∧ opening m <+: cs :=
          ⟨found, hFound, hNetwork⟩
        rw [isFirst_of_holds hOther]
        simp only [ne_eq, hFound, not_false_eq_true, if_true,
          Except.error.injEq]

/- A text is refused for the first finding, blanks aside. -/
theorem check_eq_error_iff :
    check n s = .error e ↔
      IsFirst (findings n (Text.trimList s.toList)) e :=
  checkList_eq_error_iff

/- Trimming a text does not change whether it is accepted. -/
theorem check_trim
    (n : Network)
    (s : String) :
    check n (Text.trim s) = check n s := by
  unfold check
  rw [Text.toList_trim, Text.trimList_trimList]

end Address

end Remit
