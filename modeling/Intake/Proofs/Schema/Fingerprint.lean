import Intake.Proofs.Value.LongInteger
import Intake.Schema.Basic

/-!
# Which fields have a fingerprint

Fields are compared by the digest of a text, and no schema is made of fields that have none.  The
text of a value is made like the value is shown, though not of the same parts, and it fails for the
same reason: an integer of more than 4300 digits somewhere inside.

* `Value.canonical?_failsIff` says that a value has its one text unless a long integer lies in it;
* `fingerprint?_failsIff` says it of the fingerprint of fields.
-/

namespace Intake

namespace Value

/-- A function has its one text unless it is a predicate with a long integer. -/
theorem canonicalCallable?_failsIff (f : Callable Value) :
    FailsIff (canonicalCallable? f) (HasLongInteger (.callable f)) :=
  (callableName?_failsIff f).map _

mutual

/-- **A value has its one text** unless a long integer lies in it. -/
theorem canonical?_failsIff : ∀ v : Value, FailsIff v.canonical? v.HasLongInteger
  | .null => (FailsAs.ok _).congr (iff_of_false id nofun)
  | .bool _ => (FailsAs.ok _).congr (iff_of_false id nofun)
  | .int n => (intText?_failsIff n).congr ⟨.int, fun | .int h => h⟩
  | .float _ => (FailsAs.ok _).congr (iff_of_false id nofun)
  | .text _ => (FailsAs.ok _).congr (iff_of_false id nofun)
  | .list items => by
    rw [canonical?]
    exact ((canonicalAll?_failsIff items).map _).congr
      ⟨fun ⟨_, hv, h⟩ => .list hv h, fun | .list hv h => ⟨_, hv, h⟩⟩
  | .tuple items => by
    rw [canonical?]
    exact ((canonicalAll?_failsIff items).map _).congr
      ⟨fun ⟨_, hv, h⟩ => .tuple hv h, fun | .tuple hv h => ⟨_, hv, h⟩⟩
  | .set items => by
    rw [canonical?]
    exact (shown?_failsIff (.set items)).map _
  | .day _ => (FailsAs.ok _).congr (iff_of_false id nofun)
  | .moment _ => (FailsAs.ok _).congr (iff_of_false id nofun)
  | .dict entries => by
    rw [canonical?]
    exact ((canonicalEach?_failsIff entries).map _).congr hasLongInteger_dict_iff.symm
  | .callable f => by
    rw [canonical?]
    exact canonicalCallable?_failsIff f
  | .rule test _ => by
    rw [canonical?]
    exact ((canonicalCallable?_failsIff test).map _).congr ⟨.rule, fun | .rule h => h⟩

/-- Values have their texts unless one of them has none. -/
theorem canonicalAll?_failsIff : ∀ items : List Value,
    FailsIff (canonicalAll? items) (∃ v ∈ items, v.HasLongInteger)
  | [] => (FailsAs.ok _).congr (by simp)
  | v :: items => by
    rw [canonicalAll?]
    exact ((canonical?_failsIff v).andThen fun _ => (canonicalAll?_failsIff items).andThen fun _ =>
      FailsAs.ok _).congr (by simp)

/-- Entries have their texts unless the key or the value of one of them has none. -/
theorem canonicalEach?_failsIff : ∀ entries : List (Value × Value),
    FailsIff (canonicalEach? entries)
      (∃ e ∈ entries, e.1.HasLongInteger ∨ e.2.HasLongInteger)
  | [] => (FailsAs.ok _).congr (by simp)
  | (k, v) :: entries => by
    rw [canonicalEach?]
    exact ((text?_failsIff k).andThen fun _ => (canonical?_failsIff v).andThen fun _ =>
      (canonicalEach?_failsIff entries).andThen fun _ => FailsAs.ok _).congr
        (by simp [or_assoc])

end

/-- In a record long integers only lie in the values. -/
theorem hasLongInteger_record {entries : List (String × Value)} :
    (record entries).HasLongInteger ↔ ∃ e ∈ entries, e.2.HasLongInteger := by
  constructor
  · rintro (_ | _ | _ | _ | ⟨he, hkey⟩ | ⟨he, hvalue⟩)
    · obtain ⟨e, -, rfl⟩ := List.mem_map.mp he
      cases hkey
    · obtain ⟨e, hmem, rfl⟩ := List.mem_map.mp he
      exact ⟨e, hmem, hvalue⟩
  · rintro ⟨e, he, h⟩
    exact .value (List.mem_map_of_mem he) h

end Value

/-- **Fields have a fingerprint** unless a long integer lies in one of them. -/
theorem fingerprint?_failsIff (fields : List Field) :
    FailsIff (fingerprint? fields) (∃ d ∈ fields, d.toValue.HasLongInteger) := by
  refine ((Value.canonical?_failsIff (.list (fields.map Field.toValue))).map _).congr ⟨?_, ?_⟩
  · intro hlong
    cases hlong with
    | list hv h =>
      obtain ⟨d, hd, rfl⟩ := List.mem_map.mp hv
      exact ⟨d, hd, h⟩
  · rintro ⟨d, hd, h⟩
    exact .list (List.mem_map_of_mem hd) h

end Intake
