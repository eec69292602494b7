import Intake.Form.Cleaning
import Intake.Proofs.Number.Nearest
import Intake.Proofs.Number.Reading
import Intake.Value.Amount

/-!
# One amount, read three times

The check of a number field, the rules of a form's own that compare numbers, and cleaning read a
number each in its own way.  The first two make it a floating-point number: they ask for its sort in
another order, strip a text at another place, and pass over other errors.  Cleaning looks for an
integer first, so as not to lose a digit of it.

* `amountForCheck?_eq` and `amountForRule?_eq` say that no error is left in the first two readings,
  and that both read the amount;
* `Value.Carries` holds of a value that can be used in the place of a number;
* `readings_agree` is the comparison of all three.
-/

namespace Intake

open Binary64 (zero zeroOf)

namespace Value

/-! ## The two readings of the checks -/

/-- A number that is there is read if it is finite, and the error that is passed over otherwise. -/
theorem finiteUnless_orError {passed : List FloatError} {e : FloatError} (h : e ∈ passed)
    (found : Option Binary64) :
    finiteUnless passed (orError e found) = .ok (found.filter Binary64.isFinite) := by
  cases found with
  | none => exact if_pos h
  | some x => rfl

/-- What is made of an integer is its amount. -/
theorem finiteUnless_int {passed : List FloatError} (h : .outOfRange ∈ passed) (n : Int) :
    finiteUnless passed (toFloat? (.int n)) = .ok (Value.int n).amount? := by
  have hfinite : (Binary64.ofInt? n).filter Binary64.isFinite = Binary64.ofInt? n := by
    cases hx : Binary64.ofInt? n with
    | none => rfl
    | some x => exact if_pos (Binary64.isFinite_of_ofInt? hx)
  rw [toFloat?, finiteUnless_orError h, amount?, hfinite]

/-- What is made of a text without the blanks around it is the amount of the text. -/
theorem finiteUnless_text {passed : List FloatError} (h : .malformed ∈ passed) (s : String) :
    finiteUnless passed (toFloat? (.text (Text.strip s))) = .ok (Value.text s).amount? := by
  rw [toFloat?, finiteUnless_orError h, Numeral.readFloat?_strip, amount?]

/-- **A check reads the amount.** -/
theorem amountForCheck?_eq (v : Value) : v.amountForCheck? = .ok v.amount? := by
  cases v with
  | int n =>
    rw [amountForCheck?]
    exact finiteUnless_int (by decide) n
  | text s =>
    rw [amountForCheck?]
    exact finiteUnless_text (by decide) s
  | _ => rfl

/-- **A rule of a form's own reads the amount.** -/
theorem amountForRule?_eq (v : Value) : v.amountForRule? = .ok v.amount? := by
  cases v with
  | int n =>
    rw [amountForRule?, isNumberOrText, if_pos rfl]
    exact finiteUnless_int (by decide) n
  | text s =>
    rw [amountForRule?, isNumberOrText, if_pos rfl, stripped]
    exact finiteUnless_text (by decide) s
  | _ => rfl

/-! ## Cleaning -/

/-- The value can be used in the place of a number: it is made that number, and its amount is that
number too, where a zero may have lost its minus. -/
def Carries (w : Value) (x : Binary64) : Prop :=
  ∃ y, w.toFloat? = .ok y ∧ w.amount? = some y ∧ y.eqv x = true ∧
    (y = x ∨ y = zero ∧ x = zeroOf true)

/-- An integer within the range carries its number. -/
theorem carries_int {n : Int} {x : Binary64} (h : Binary64.ofInt? n = some x) :
    (Value.int n).Carries x := by
  refine ⟨x, ?_, h, Binary64.eqv_self (Binary64.isFinite_of_ofInt? h), .inl rfl⟩
  rw [toFloat?, h]
  rfl

/-- A finite number carries itself. -/
theorem carries_float {x : Binary64} (h : x.isFinite = true) : (Value.float x).Carries x :=
  ⟨x, rfl, if_pos h, Binary64.eqv_self h, .inl rfl⟩

/-- Zero carries the zeros of both signs. -/
theorem carries_zero (negative : Bool) : (Value.int 0).Carries (zeroOf negative) := by
  cases negative with
  | false => exact carries_int Binary64.ofInt?_zero
  | true =>
    refine ⟨zero, ?_, Binary64.ofInt?_zero, by decide, .inr ⟨rfl, rfl⟩⟩
    rw [toFloat?, Binary64.ofInt?_zero]
    rfl

end Value

namespace Cleaning

/-- Blanks around a number do not count. -/
theorem number_stripped (v : Value) : number v.stripped = number v := by
  cases v with
  | text s =>
    show numberText (Text.strip s) = numberText s
    rw [numberText, Numeral.readInt_strip, Numeral.readFloat?_strip, numberText]
  | _ => rfl

/-- An integer within the range stays and carries its number, and another becomes zero. -/
theorem integer_cases (n : Int) :
    (∀ x, Binary64.ofInt? n = some x → (integer n).Carries x) ∧
      (Binary64.ofInt? n = none → integer n = .int 0) := by
  constructor
  · intro x hx
    have hrange : (Binary64.ofInt? n).isSome = true := Option.isSome_of_eq_some hx
    rw [integer, if_pos hrange]
    exact Value.carries_int hx
  · intro hbeyond
    rw [integer, hbeyond]
    rfl

/-- A finite number stays and carries itself, and another becomes zero. -/
theorem decimal_cases (x : Binary64) :
    (x.isFinite = true → (decimal x).Carries x) ∧ (x.isFinite = false → decimal x = .int 0) := by
  constructor
  · intro hfinite
    rw [decimal, if_pos hfinite]
    exact Value.carries_float hfinite
  · intro hinfinite
    rw [decimal, hinfinite]
    rfl

/-- A text with an amount becomes a number that carries it, and another becomes zero. -/
theorem numberText_cases (s : String) :
    (∀ x, (Value.text s).amount? = some x → (numberText s).Carries x) ∧
      ((Value.text s).amount? = none → numberText s = .int 0) := by
  rw [Value.amount?, numberText]
  cases hint : Numeral.readInt s with
  | ok n =>
    dsimp only
    rcases Numeral.readFloat?_of_readInt hint with hfloat | ⟨rfl, hfloat⟩
    · rw [hfloat, ← Binary64.ofInt?_eq_filter]
      exact integer_cases n
    · have hzero : integer 0 = .int 0 := by
        rw [integer, Binary64.ofInt?_zero]
        rfl
      rw [hfloat, hzero]
      refine ⟨fun x hx => ?_, fun _ => rfl⟩
      obtain rfl := Option.some.inj (Option.filter_eq_some_iff.mp hx).1
      exact Value.carries_zero _
  | error e =>
    cases hfloat : Numeral.readFloat? s with
    | none => exact ⟨fun x hx => (nomatch hx), fun _ => rfl⟩
    | some x =>
      dsimp only
      obtain ⟨hstays, hzero⟩ := decimal_cases x
      cases hfinite : x.isFinite with
      | true =>
        refine ⟨fun y hy => ?_, fun hnone => ?_⟩
        · obtain rfl := Option.some.inj (Option.filter_eq_some_iff.mp hy).1
          exact hstays hfinite
        · simp [Option.filter, hfinite] at hnone
      | false =>
        refine ⟨fun y hy => ?_, fun _ => hzero hfinite⟩
        simp [Option.filter, hfinite] at hy

end Cleaning

/-- **The three readings of a number agree.**  Of any value but a truth value:

* the check of a number field and a rule of a form's own read the same, and neither is left with an
  error;
* if that is a number, cleaning gives a value that carries it, so a number that the check accepts is
  not changed by cleaning;
* if it is none, cleaning gives zero.

Of a text with blanks around it cleaning gives what it gives without them. -/
theorem readings_agree {v : Value} (hv : ∀ b, v ≠ .bool b) :
    v.amountForRule? = v.amountForCheck? ∧ v.amountForCheck? = .ok v.amount? ∧
      (∀ x, v.amount? = some x → (Cleaning.number v).Carries x) ∧
      (v.amount? = none → Cleaning.number v = .int 0) ∧
      Cleaning.number v.stripped = Cleaning.number v := by
  have hclean : (∀ x, v.amount? = some x → (Cleaning.number v).Carries x) ∧
      (v.amount? = none → Cleaning.number v = .int 0) := by
    cases v with
    | bool b => exact absurd rfl (hv b)
    | int n => exact Cleaning.integer_cases n
    | text s => exact Cleaning.numberText_cases s
    | float x =>
      obtain ⟨hstays, hzero⟩ := Cleaning.decimal_cases x
      rw [Value.amount?, Cleaning.number]
      cases hfinite : x.isFinite with
      | true =>
        refine ⟨fun y hy => ?_, fun hnone => nomatch hnone⟩
        obtain rfl := Option.some.inj hy
        exact hstays hfinite
      | false => exact ⟨fun y hy => (nomatch hy), fun _ => hzero hfinite⟩
    | _ => exact ⟨fun x hx => (nomatch hx), fun _ => rfl⟩
  refine ⟨?_, v.amountForCheck?_eq, hclean.1, hclean.2, Cleaning.number_stripped v⟩
  rw [v.amountForRule?_eq, v.amountForCheck?_eq]

/-- Seventy with a low line between its digits and blanks around them is seventy in all readings,
and a decimal beyond the range is nothing and cleaned to zero. -/
theorem readings_agree_seventy :
    (Value.text " 7_0 ").amountForRule? = .ok (some (.ofInt 70)) ∧
      (Value.text " 7_0 ").amountForCheck? = .ok (some (.ofInt 70)) ∧
      (Cleaning.number (.text " 7_0 ")).Carries (.ofInt 70) ∧
      (Value.text "1e400").amountForCheck? = .ok none ∧
      Cleaning.number (.text "1e400") = .int 0 := by
  have hseventy : (Value.text " 7_0 ").amount? = some (.ofInt 70) := by decide +kernel
  have hbeyond : (Value.text "1e400").amount? = none := by decide +kernel
  obtain ⟨hsame, hcheck, hcarries, -, -⟩ :=
    readings_agree (v := .text " 7_0 ") (fun b h => by cases h)
  obtain ⟨-, hnothing, -, hzero, -⟩ := readings_agree (v := .text "1e400") (fun b h => by cases h)
  exact ⟨by rw [hsame, hcheck, hseventy], by rw [hcheck, hseventy], hcarries _ hseventy,
    by rw [hnothing, hbeyond], hzero hbeyond⟩

end Intake
