import Mathlib.Data.List.Basic
import Mathlib.Data.List.Nodup

/-!
# Looking up among pairs

Tables, answers and messages are all lists of pairs that are looked up by their first parts.  What
is looked up is among the pairs; and where no first part occurs twice, whatever is among the pairs
is looked up.
-/

namespace Intake

variable {α β : Type} {pairs : List (α × β)} {key : α} {value : β}

/-- A first part is that of some pair. -/
theorem exists_of_mem_map_fst (h : key ∈ pairs.map Prod.fst) : ∃ value, (key, value) ∈ pairs := by
  simpa using h

variable [BEq α] [LawfulBEq α]

/-- What is looked up is there. -/
theorem mem_of_lookup_eq_some (h : pairs.lookup key = some value) : (key, value) ∈ pairs := by
  obtain ⟨before, after, rfl, -⟩ := List.lookup_eq_some_iff.mp h
  exact List.mem_append_right before List.mem_cons_self

/-- Among pairs of distinct first parts each is looked up by its first part. -/
theorem lookup_eq_some_of_mem (hkeys : (pairs.map Prod.fst).Nodup) (h : (key, value) ∈ pairs) :
    pairs.lookup key = some value := by
  induction pairs with
  | nil => simp at h
  | cons e rest ih =>
    obtain ⟨k, v⟩ := e
    obtain ⟨hnew, hrest⟩ := List.nodup_cons.mp hkeys
    rcases List.mem_cons.mp h with heq | hmem
    · cases heq
      rw [List.lookup_cons, beq_self_eq_true]
    · have hne : (key == k) = false := by
        rw [beq_eq_false_iff_ne]
        rintro rfl
        exact hnew (List.mem_map.mpr ⟨(key, value), hmem, rfl⟩)
      rw [List.lookup_cons, hne]
      exact ih hrest hmem

/-- A first part that no pair has is not looked up. -/
theorem lookup_eq_none_of_not_mem (h : key ∉ pairs.map Prod.fst) : pairs.lookup key = none := by
  cases hlookup : pairs.lookup key with
  | none => rfl
  | some value => exact absurd (List.mem_map_of_mem (mem_of_lookup_eq_some hlookup)) h

end Intake
