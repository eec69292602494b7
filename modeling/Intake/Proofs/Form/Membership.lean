import Intake.Proofs.Form.Showing
import Intake.Proofs.Value.Equality

/-!
# When a list contains an item

The equality of conditions keeps truth values apart from numbers.  The predicate that looks for an
item in a list goes by the other equality, for which a truth value is the number one or zero.  The
two come apart exactly there: a truth value and a number that it counts as.

* `Value.Mixes` says of two values that one of them is a truth value and the other a number that it
  counts as;
* `eqv_iff_strictEqv_or_mixes` says that values are equal if they are strictly so, or mix;
* `contains_iff` is the conclusion, for lists and tuples of whatever values.
-/

namespace Intake

namespace Value

/-- A truth value **counts as** a number if that is one or zero, as it is true or false. -/
def CountsAs (b : Bool) (v : Value) : Prop :=
  v = .int (if b then 1 else 0) ∨ ∃ x, v = .float x ∧ x.eqvInt (if b then 1 else 0) = true

/-- Two values **mix** if one is a truth value that counts as the other. -/
def Mixes (v w : Value) : Prop :=
  (∃ b, v = .bool b ∧ CountsAs b w) ∨ ∃ b, w = .bool b ∧ CountsAs b v

/-- A truth value and a value of another sort are equal if the one counts as the other. -/
theorem eqv_bool_iff {b : Bool} {v : Value} (hv : ∀ c, v ≠ .bool c) :
    (eqv (.bool b) v = true ↔ CountsAs b v) ∧ (eqv v (.bool b) = true ↔ CountsAs b v) := by
  unfold CountsAs
  cases v with
  | bool c => exact absurd rfl (hv c)
  | int n =>
    constructor
    · simp only [eqv, eqvInt, beq_iff_eq, int.injEq, reduceCtorEq, false_and, exists_false,
        or_false]
      exact eq_comm
    · simp [eqv, eqvInt]
  | float x => simp [eqv, eqvInt, eqvFloat]
  | _ => simp [eqv, eqvInt]

/-- A truth value mixes with a value of another sort if it counts as that. -/
theorem mixes_bool_iff {b : Bool} {v : Value} (hv : ∀ c, v ≠ .bool c) :
    (Mixes (.bool b) v ↔ CountsAs b v) ∧ (Mixes v (.bool b) ↔ CountsAs b v) := by
  have hleft : Mixes (.bool b) v ↔ CountsAs b v := by
    constructor
    · intro hmixes
      rcases hmixes with ⟨c, hc, hcounts⟩ | ⟨c, hc, -⟩
      · cases hc
        exact hcounts
      · exact absurd hc (hv c)
    · exact fun hcounts => .inl ⟨b, rfl, hcounts⟩
  exact ⟨hleft, or_comm.trans hleft⟩

/-- Strictly, a truth value equals no value of another sort, and two values of other sorts are equal
if they are equal. -/
theorem strictEqv_of_not_bool {v : Value} (hv : ∀ c, v ≠ .bool c) :
    (∀ b, strictEqv (.bool b) v = false ∧ strictEqv v (.bool b) = false) ∧
      ∀ w, (∀ c, w ≠ .bool c) → strictEqv v w = eqv v w := by
  cases v with
  | bool c => exact absurd rfl (hv c)
  | _ =>
    refine ⟨fun b => ⟨rfl, rfl⟩, fun w hw => ?_⟩
    cases w with
    | bool c => exact absurd rfl (hw c)
    | _ => rfl

/-- **Values are equal** exactly if they are strictly so, or a truth value mixes with a number. -/
theorem eqv_iff_strictEqv_or_mixes {v w : Value} :
    v.eqv w = true ↔ v.strictEqv w = true ∨ v.Mixes w := by
  by_cases hv : ∀ a, v ≠ .bool a
  · by_cases hw : ∀ b, w ≠ .bool b
    · have hapart : ¬ v.Mixes w := by
        intro hmixes
        rcases hmixes with ⟨b, hb, -⟩ | ⟨b, hb, -⟩
        · exact hv b hb
        · exact hw b hb
      rw [(strictEqv_of_not_bool hv).2 w hw, or_iff_left hapart]
    · obtain ⟨b, rfl⟩ := not_forall_not.mp hw
      rw [(eqv_bool_iff hv).2, (mixes_bool_iff hv).2, ((strictEqv_of_not_bool hv).1 b).2]
      simp
  · obtain ⟨a, rfl⟩ := not_forall_not.mp hv
    by_cases hw : ∀ b, w ≠ .bool b
    · rw [(eqv_bool_iff hw).1, (mixes_bool_iff hw).1, ((strictEqv_of_not_bool hw).1 a).1]
      simp
    · obtain ⟨b, rfl⟩ := not_forall_not.mp hw
      cases a <;> cases b <;> simp [eqv, eqvInt, strictEqv, Mixes, CountsAs]

end Value

/-- **What containing goes by.**  On a list or tuple the predicate that looks for an item gives an
answer, and so does a condition with it: that the item is there if some item of the list strictly
equals it, or mixes with it.  That is strict membership exactly if, wherever an item of the list
mixes with it, some item strictly equals it as well; so it is for every item that is no truth value
and that none counts as. -/
theorem contains_iff {item v : Value} {items : List Value} (hv : v.sequence? = some items)
    (hitem : item.IsProper) (hitems : ∀ y ∈ items, y.IsProper) :
    ∃ found, (Predicate.contains item).holds? v = .ok found ∧
      (∀ host answers field identity, answers.get field = v →
        (⟨field, .callable (.predicate (.contains item) identity)⟩ : Clause).holds host answers =
          found) ∧
      (found = true ↔ (∃ y ∈ items, y.strictEqv item = true) ∨ ∃ y ∈ items, y.Mixes item) ∧
      ((found = true ↔ ∃ y ∈ items, y.strictEqv item = true) ↔
        ((∃ y ∈ items, y.Mixes item) → ∃ y ∈ items, y.strictEqv item = true)) ∧
      ((∀ b, item ≠ .bool b ∧ ¬ Value.CountsAs b item) →
        (found = true ↔ ∃ y ∈ items, y.strictEqv item = true)) := by
  have hholds : (Predicate.contains item).holds? v = .ok (items.any (Value.eqv item)) := by
    cases v <;> simp_all [Value.sequence?, Predicate.holds?, Value.includes?]
  have hfound : items.any (Value.eqv item) = true ↔
      (∃ y ∈ items, y.strictEqv item = true) ∨ ∃ y ∈ items, y.Mixes item := by
    rw [List.any_eq_true, ← exists_or]
    refine exists_congr fun y => ?_
    rw [← and_or_left]
    refine and_congr_right fun hy => ?_
    rw [hitem.eqv_comm (hitems y hy), Value.eqv_iff_strictEqv_or_mixes]
  refine ⟨_, hholds, ?_, hfound, ?_, ?_⟩
  · intro host answers field identity hanswer
    exact saidYes_of_eq_ok (Clause.holds?_of_predicate (hanswer ▸ hholds))
  · rw [hfound, or_iff_left_iff_imp]
  · intro hplain
    rw [hfound, or_iff_left]
    intro hmixes
    obtain ⟨y, -, ⟨b, -, hcounts⟩ | ⟨b, hb, -⟩⟩ := hmixes
    · exact (hplain b).2 hcounts
    · exact (hplain b).1 hb

/-- A proper item is found in a list of itself, although something else mixes with it. -/
theorem contains_one_beside_true :
    ∃ found, (Predicate.contains (.int 1)).holds? (.list [.bool true, .int 1]) = .ok found ∧
      (found = true ↔ ∃ y ∈ [Value.bool true, .int 1], y.strictEqv (.int 1) = true) := by
  have hproper : ∀ y ∈ [Value.bool true, .int 1], y.IsProper := by
    intro y hy
    simp only [List.mem_cons, List.not_mem_nil, or_false] at hy
    rcases hy with rfl | rfl
    · exact .intro trivial nofun
    · exact .intro trivial nofun
  have hself : (Value.int 1).strictEqv (.int 1) = true := by
    simp [Value.strictEqv, Value.eqv, Value.eqvInt]
  obtain ⟨found, hholds, -, -, hstrict, -⟩ :=
    contains_iff (v := .list [.bool true, .int 1]) rfl (hproper (.int 1) (by simp)) hproper
  exact ⟨found, hholds, hstrict.mpr fun _ => ⟨.int 1, by simp, hself⟩⟩

/-- A list with nothing but `true` in it contains one, though nothing in it strictly equals one; and
a list with nothing but one in it contains `true`. -/
theorem contains_one_of_true :
    ((Predicate.contains (.int 1)).holds? (.list [.bool true]) = .ok true ∧
      ¬ ∃ y ∈ [Value.bool true], y.strictEqv (.int 1) = true) ∧
    ((Predicate.contains (.bool true)).holds? (.list [.int 1]) = .ok true ∧
      ¬ ∃ y ∈ [Value.int 1], y.strictEqv (.bool true) = true) := by
  refine ⟨⟨?_, by simp [Value.strictEqv]⟩, ⟨?_, by simp [Value.strictEqv]⟩⟩
  · simp [Predicate.holds?, Value.includes?, Value.eqv, Value.eqvInt]
  · simp [Predicate.holds?, Value.includes?, Value.eqv, Value.eqvInt]

end Intake
