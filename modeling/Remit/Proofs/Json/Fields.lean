import Mathlib.Data.List.Induction
import Remit.Json.Value

/-
  This file tells what is read at a key of a record: the value
  that was given last for it, wherever the key was put among
  the rising ones. Fields that a record is extended with are
  read as if they had been given last.

  Key theorems include:
    * `Json.Value.get?_insertField`
    * `Json.Value.get?_record`
    * `Json.Value.extend_record`
-/

namespace Remit.Json.Value

variable
  {key : String} {fields : List (String × Value)}

/- The first field of an object is read at its key. -/
theorem get?_cons
    (f : String × Value) :
    (Value.object (f :: fields)).get? key =
      if key = f.1 then some f.2 else (Value.object fields).get? key := by
  change ((f :: fields).find? (fun f => f.1 == key)).map Prod.snd = _
  rw [List.find?_cons]
  by_cases h : key = f.1
  · have hSame : (f.1 == key) = true := beq_iff_eq.mpr h.symm
    rw [if_pos h, hSame]
    rfl
  · have hOther : (f.1 == key) = false :=
      beq_eq_false_iff_ne.mpr (Ne.symm h)
    rw [if_neg h, hOther]
    rfl

/- A field that is put in its place is read at its key. -/
theorem get?_insertField
    (name : String)
    (value : Value)
    (fields : List (String × Value)) :
    (Value.object (insertField name value fields)).get? key =
      if key = name then
        some value
      else
        (Value.object fields).get? key := by
  induction fields with
  | nil => exact get?_cons _
  | cons f fields ih =>
      unfold insertField
      split
      · exact get?_cons _
      · split
        · rename_i hSame
          -- The field that was there is not read at any other key.
          rw [get?_cons, get?_cons, hSame]
          split <;> rfl
        · rename_i hOther
          rw [get?_cons, ih, get?_cons]
          by_cases hName : key = name
          · rw [if_pos hName, if_pos hName, if_neg (hName ▸ hOther)]
          · rw [if_neg hName, if_neg hName]

/- A record with one more field is the record with it put in its place. -/
theorem get?_record_concat
    (f : String × Value) :
    (record (fields ++ [f])).get? key =
      if key = f.1 then some f.2 else (record fields).get? key := by
  unfold record
  rw [List.foldl_append]
  exact get?_insertField f.1 f.2 _

/-
  What is read at a key of a record is what was given last for
  it. The induction takes the fields from the last one on.
-/
theorem get?_record
    (fields : List (String × Value)) :
    (record fields).get? key = fields.reverse.lookup key := by
  induction fields using List.reverseRecOn with
  | nil => rfl
  | append_singleton fields f ih =>
      rw [get?_record_concat, List.reverse_concat, List.lookup_cons, ih]
      by_cases h : key = f.1
      · rw [if_pos h, beq_iff_eq.mpr h]
      · rw [if_neg h, beq_eq_false_iff_ne.mpr h]

/- The keys of a record are those that were given. -/
theorem isSome_get?_record_iff :
    ((record fields).get? key).isSome ↔ key ∈ fields.map Prod.fst := by
  rw [get?_record, List.lookup_isSome_iff]
  simp only [List.mem_reverse, beq_iff_eq, List.mem_map,
    eq_comm (a := key)]

/- A record that is extended is a record of all the fields. -/
theorem extend_record
    (more : List (String × Value)) :
    (record fields).extend more = record (fields ++ more) := by
  unfold record extend
  rw [List.foldl_append]

end Remit.Json.Value
