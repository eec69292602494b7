import Intake.Form.Reconcile

/-!
# When a value is the same as another

A field is written only where it does not hold the same value already: one that is equal and of the
same sort.  Most of the values that are written that way are **exact**: they are the same as
themselves and as nothing else.  The others are floating-point numbers, of which the two zeros are
the same and not-a-number is not even the same as itself, and collections of such values.

* `Value.isExact_of_isEmpty`, `Value.isExact_int` and `FieldType.isExact_emptyValue` say that empty
  values, counts and the empty values of all sorts of field are exact;
* `Field.isUnset_cases` says that what a field holds while it is unset is exact, or a zero.
-/

namespace Intake

namespace Binary64

/-- A number that equals the integer zero is the zero of some sign. -/
theorem exists_zeroOf_of_eqvInt {x : Binary64} (h : x.eqvInt 0 = true) :
    ∃ negative, x = zeroOf negative := by
  cases x with
  | nan => simp [eqvInt, compareInt?] at h
  | infinite negative => cases negative <;> simp [eqvInt, compareInt?] at h
  | finite negative m p normal =>
    have hgrains : m <<< p = 0 := by
      cases negative <;> simpa [eqvInt, compareInt?, Std.compare_eq_iff_eq] using h
    have hm : m = 0 := by
      rw [Nat.shiftLeft_eq] at hgrains
      exact (Nat.mul_eq_zero.mp hgrains).resolve_right (Nat.ne_of_gt (Nat.two_pow_pos p))
    have hp : p = 0 := by
      subst hm
      simp [isSignificand] at normal
      omega
    subst hm hp
    exact ⟨negative, rfl⟩

/-- Numbers are compared with a zero of either sign as with the integer zero. -/
theorem eqv_zeroOf (x : Binary64) (negative : Bool) : x.eqv (zeroOf negative) = x.eqvInt 0 := by
  cases x with
  | nan => rfl
  | infinite a => cases a <;> rfl
  | finite a m p normal =>
    cases negative <;> simp [eqv, eqvInt, compare?, compareInt?, zeroOf]

end Binary64

namespace Value

/-- Values are the same if they are of one sort and equal. -/
theorem sameAs_iff {v w : Value} : v.sameAs w = true ↔ v.kind = w.kind ∧ v.strictEqv w = true := by
  simp [sameAs, and_comm]

/-- A value is **exact** if it is the same as itself, and as no other value. -/
structure IsExact (v : Value) : Prop where
  left : ∀ w, v.sameAs w = true ↔ v = w
  right : ∀ w, w.sameAs v = true ↔ w = v

/-- An exact value is the same as itself. -/
theorem IsExact.sameAs_self {v : Value} (h : v.IsExact) : v.sameAs v = true :=
  (h.left v).mpr rfl

/-- Nothing is exact. -/
theorem isExact_null : null.IsExact := by
  constructor <;> intro w <;> cases w <;> simp [sameAs_iff, kind, strictEqv, eqv]

/-- Truth values are exact. -/
theorem isExact_bool (b : Bool) : (bool b).IsExact := by
  constructor <;> intro w <;> cases w <;> simp [sameAs_iff, kind, strictEqv]

/-- Integers are exact. -/
theorem isExact_int (n : Int) : (int n).IsExact := by
  constructor <;> intro w <;> cases w <;> simp [sameAs_iff, kind, strictEqv, eqv, eqvInt]

/-- Texts are exact. -/
theorem isExact_text (s : String) : (text s).IsExact := by
  constructor <;> intro w <;> cases w <;> simp [sameAs_iff, kind, strictEqv, eqv]

/-- A list without items is exact. -/
theorem isExact_list_nil : (list []).IsExact := by
  constructor <;> intro w <;> cases w with
  | list items => cases items <;> simp [sameAs_iff, kind, strictEqv, eqv, eqvAll]
  | _ => simp [sameAs_iff, kind]

/-- A tuple without items is exact. -/
theorem isExact_tuple_nil : (tuple []).IsExact := by
  constructor <;> intro w <;> cases w with
  | tuple items => cases items <;> simp [sameAs_iff, kind, strictEqv, eqv, eqvAll]
  | _ => simp [sameAs_iff, kind]

/-- A set without items is exact. -/
theorem isExact_set_nil : (set []).IsExact := by
  constructor <;> intro w <;> cases w with
  | set items => cases items <;> simp [sameAs_iff, kind, strictEqv, eqv, allAmong]
  | _ => simp [sameAs_iff, kind]

/-- Empty values are exact. -/
theorem isExact_of_isEmpty {v : Value} (hempty : v.isEmpty = true) : v.IsExact := by
  cases v with
  | null => exact isExact_null
  | text s => exact isExact_text s
  | list items =>
    obtain rfl : items = [] := by simpa [isEmpty] using hempty
    exact isExact_list_nil
  | tuple items =>
    obtain rfl : items = [] := by simpa [isEmpty] using hempty
    exact isExact_tuple_nil
  | set items =>
    obtain rfl : items = [] := by simpa [isEmpty] using hempty
    exact isExact_set_nil
  | _ => simp [isEmpty] at hempty

/-- The same as a zero are the zeros of both signs. -/
theorem sameAs_zero_iff {v : Value} {negative : Bool} :
    v.sameAs (.float (.zeroOf negative)) = true ↔ ∃ other, v = .float (.zeroOf other) := by
  rw [sameAs_iff]
  constructor
  · rintro ⟨hkind, hequal⟩
    cases v with
    | float x =>
      simp only [strictEqv, eqv, eqvFloat, Binary64.eqv_zeroOf] at hequal
      obtain ⟨other, rfl⟩ := Binary64.exists_zeroOf_of_eqvInt hequal
      exact ⟨other, rfl⟩
    | _ => cases hkind
  · rintro ⟨other, rfl⟩
    refine ⟨rfl, ?_⟩
    simp only [strictEqv, eqv, eqvFloat, Binary64.eqv_zeroOf]
    cases other <;> rfl

end Value

namespace FieldType

/-- The empty value of a sort of field is exact. -/
theorem isExact_emptyValue (type : FieldType) : type.emptyValue.IsExact := by
  cases type with
  | number => exact Value.isExact_int 0
  | checkbox => exact Value.isExact_bool false
  | multiSelect | multiValue => exact Value.isExact_list_nil
  | _ => exact Value.isExact_text ""

/-- What equals the empty value of a sort of field is this value, or a zero. -/
theorem eq_emptyValue_or_zero {type : FieldType} {v : Value}
    (hequal : v.strictEqv type.emptyValue = true) :
    v = type.emptyValue ∨ ∃ negative, v = .float (.zeroOf negative) := by
  cases v with
  | float x =>
    have hzero : x.eqvInt 0 = true := by
      cases type <;> simp [emptyValue, Value.strictEqv, Value.eqv, Value.eqvFloat] at hequal
      exact hequal
    obtain ⟨negative, rfl⟩ := Binary64.exists_zeroOf_of_eqvInt hzero
    exact .inr ⟨negative, rfl⟩
  | list items =>
    cases type <;> cases items <;>
      simp [emptyValue, Value.strictEqv, Value.eqv, Value.eqvAll] at hequal ⊢
  | _ =>
    cases type <;> simp [emptyValue, Value.strictEqv, Value.eqv, Value.eqvInt] at hequal ⊢ <;>
      exact hequal

end FieldType

/-- What a field holds while it is unset is exact, or a zero. -/
theorem Field.isUnset_cases {d : Field} {v : Value} (hunset : d.isUnset v = true) :
    v.IsExact ∨ ∃ negative, v = .float (.zeroOf negative) := by
  rcases Bool.or_eq_true_iff.mp hunset with hempty | hequal
  · exact .inl (Value.isExact_of_isEmpty hempty)
  · refine (FieldType.eq_emptyValue_or_zero hequal).imp_left ?_
    rintro rfl
    exact d.type.isExact_emptyValue

end Intake
