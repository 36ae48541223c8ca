import Mathlib.Data.List.Forall2
import Remit.SendError

/-
  This file tells when steps that can fail succeed one after the
  other, and with which failure they end otherwise.

  Key theorems include:
    * `bind_eq_ok_iff`
    * `bind_eq_error_iff`
    * `not_exists_ok_iff`
    * `mapError_eq_ok_iff`
    * `mapError_eq_error_iff`
    * `mapM_eq_ok_iff`
    * `exists_mapM_iff`
    * `mapM_eq_error_iff`
-/

namespace Remit

section Steps

variable {ε δ α β : Type} {x : Except ε α}

/- Two steps succeed when the second does on what the first gave. -/
theorem bind_eq_ok_iff
    {f : α → Except ε β}
    {b : β} :
    (x >>= f) = .ok b ↔ ∃ a, x = .ok a ∧ f a = .ok b := by
  cases x <;> simp [bind, Except.bind]

/- Two steps fail when the first does, or else the second. -/
theorem bind_eq_error_iff
    {f : α → Except ε β}
    {e : ε} :
    (x >>= f) = .error e ↔
      x = .error e ∨ ∃ a, x = .ok a ∧ f a = .error e := by
  cases x <;> simp [bind, Except.bind]

/- A step that does not succeed fails. -/
theorem not_exists_ok_iff :
    (¬ ∃ a, x = .ok a) ↔ ∃ e, x = .error e := by
  cases x with
  | ok a => exact iff_of_false (fun h => h ⟨a, rfl⟩) nofun
  | error e => exact iff_of_true nofun ⟨e, rfl⟩

/- Another failure in its place does not make a step succeed. -/
theorem mapError_eq_ok_iff
    {f : ε → δ}
    {a : α} :
    x.mapError f = .ok a ↔ x = .ok a := by
  cases x with
  | ok b =>
      change Except.ok b = .ok a ↔ Except.ok b = .ok a
      rw [Except.ok.injEq, Except.ok.injEq]
  | error e => exact iff_of_false nofun nofun

/- A failure is put in the place of another. -/
theorem mapError_eq_error_iff
    {f : ε → δ}
    {e : δ} :
    x.mapError f = .error e ↔ ∃ e', x = .error e' ∧ f e' = e := by
  cases x with
  | ok b => exact iff_of_false nofun nofun
  | error e' =>
      change Except.error (f e') = .error e ↔ _
      simp only [Except.error.injEq, exists_eq_left']

/- A step succeeds on a whole list when it does on every entry. -/
theorem mapM_eq_ok_iff
    {f : α → Except ε β}
    {as : List α}
    {bs : List β} :
    as.mapM f = .ok bs ↔
      List.Forall₂ (fun a b => f a = .ok b) as bs := by
  induction as generalizing bs with
  | nil =>
      rw [List.mapM_nil, List.forall₂_nil_left_iff]
      change Except.ok [] = Except.ok bs ↔ bs = []
      rw [Except.ok.injEq, eq_comm]
  | cons a as ih =>
      rw [List.mapM_cons, bind_eq_ok_iff, List.forall₂_cons_left_iff]
      constructor
      · rintro ⟨b, hb, hRest⟩
        rcases bind_eq_ok_iff.mp hRest with ⟨rest, hMap, hPure⟩
        cases hPure
        exact ⟨b, rest, hb, ih.mp hMap, rfl⟩
      · rintro ⟨b, rest, hb, hRest, rfl⟩
        exact ⟨b, hb, bind_eq_ok_iff.mpr ⟨rest, ih.mpr hRest, rfl⟩⟩

/- What a step gave on a list, it gave on an entry. -/
theorem exists_mem_of_mapM
    {f : α → Except ε β}
    {as : List α}
    {bs : List β}
    {b : β}
    (h : as.mapM f = .ok bs)
    (hb : b ∈ bs) :
    ∃ a ∈ as, f a = .ok b := by
  have hAll := mapM_eq_ok_iff.mp h
  clear h
  induction hAll with
  | nil => cases hb
  | cons ha _ ih =>
      rcases List.mem_cons.mp hb with rfl | hb
      · exact ⟨_, List.mem_cons_self, ha⟩
      · rcases ih hb with ⟨a, hMem, hOk⟩
        exact ⟨a, List.mem_cons_of_mem _ hMem, hOk⟩

/- A step succeeds on a whole list if it does on each entry. -/
theorem exists_mapM_iff
    {f : α → Except ε β}
    {as : List α} :
    (∃ bs, as.mapM f = .ok bs) ↔ ∀ a ∈ as, ∃ b, f a = .ok b := by
  simp only [mapM_eq_ok_iff]
  induction as with
  | nil => exact iff_of_true ⟨[], .nil⟩ nofun
  | cons a as ih =>
      simp only [List.forall₂_cons_left_iff, List.forall_mem_cons]
      rw [← ih]
      constructor
      · rintro ⟨_, b, bs, hb, hbs, _⟩
        exact ⟨⟨b, hb⟩, bs, hbs⟩
      · rintro ⟨⟨b, hb⟩, bs, hbs⟩
        exact ⟨b :: bs, b, bs, hb, hbs, rfl⟩

/- It fails with the failure on the first entry that it fails on. -/
theorem mapM_eq_error_iff
    {f : α → Except ε β}
    {as : List α}
    {e : ε} :
    as.mapM f = .error e ↔
      ∃ before a after, as = before ++ a :: after ∧
        (∀ b ∈ before, ∃ c, f b = .ok c) ∧ f a = .error e := by
  induction as with
  | nil =>
      refine iff_of_false nofun ?_
      intro h
      rcases h with ⟨before, a, after, hEq, _⟩
      cases before <;> cases hEq
  | cons a as ih =>
      rw [List.mapM_cons, bind_eq_error_iff]
      constructor
      · intro h
        rcases h with ha | ⟨b, hb, hRest⟩
        · exact ⟨[], a, as, rfl, nofun, ha⟩
        · rcases bind_eq_error_iff.mp hRest with hMap | ⟨_, _, hPure⟩
          · rcases ih.mp hMap with
              ⟨before, c, after, rfl, hBefore, hc⟩
            exact
              ⟨a :: before, c, after, rfl,
                List.forall_mem_cons.mpr ⟨⟨b, hb⟩, hBefore⟩, hc⟩
          · cases hPure
      · intro h
        rcases h with ⟨before, c, after, hEq, hBefore, hc⟩
        cases before with
        | nil =>
            cases hEq
            exact Or.inl hc
        | cons b before =>
            cases hEq
            rcases List.forall_mem_cons.mp hBefore with
              ⟨⟨d, hd⟩, hRest⟩
            have hMap := ih.mpr ⟨before, c, after, rfl, hRest, hc⟩
            exact
              Or.inr ⟨d, hd, bind_eq_error_iff.mpr (Or.inl hMap)⟩

end Steps

end Remit
