import Intake.Number.Shortest
import Mathlib.Algebra.Order.Field.Basic
import Mathlib.Data.List.TakeWhile
import Mathlib.Tactic.FieldSimp
import Mathlib.Tactic.NormNum
import Mathlib.Tactic.Ring

/-!
# What the text of a decimal says

A decimal is written plain or with an exponent, with its point after the first digit, further
right, or in front of all digits.  Whichever it is, the text says the same number: its digits,
with the point left out, times a power of ten that the point and the exponent tell.

* `saidBy` is the number that a text says;
* `saidBy_decimalText` says that the text of a decimal says that decimal.
-/

namespace Intake.Binary64

/-- The number that an exponent with its sign says. -/
def exponentSaidBy : List Char → Int
  | '-' :: digits => -(Nat.ofDigitChars 10 digits 0 : Int)
  | '+' :: digits => Nat.ofDigitChars 10 digits 0
  | _ => 0

/-- The number that digits with a point say. -/
def mantissaSaidBy (cs : List Char) : ℚ :=
  Nat.ofDigitChars 10 (cs.filter (· ≠ '.')) 0 /
    10 ^ ((cs.dropWhile (· ≠ '.')).tail).length

/-- The number that digits with a point, and perhaps an exponent, say. -/
def saidBy (cs : List Char) : ℚ :=
  mantissaSaidBy (cs.takeWhile (· ≠ 'e')) *
    10 ^ exponentSaidBy ((cs.dropWhile (· ≠ 'e')).tail)

/-- A row of characters of which each is a digit. -/
def IsDigits (cs : List Char) : Prop := ∀ c ∈ cs, c.isDigit = true

/-- The characters of a number are its digits. -/
theorem toList_toString_nat (n : Nat) : (toString n).toList = Nat.toDigits 10 n := by
  rw [Nat.toString_eq_repr, Nat.toList_repr]

/-- A number has as many characters as digits. -/
theorem length_toString_nat (n : Nat) : (toString n).length = (Nat.toDigits 10 n).length := by
  rw [← String.length_toList, toList_toString_nat]

/-- The digits of a number are digits. -/
theorem isDigits_toDigits (n : Nat) : IsDigits (Nat.toDigits 10 n) :=
  fun _ hc => Nat.isDigit_of_mem_toDigits (by decide) (by decide) hc

/-- Zeros are digits. -/
theorem isDigits_replicate (n : Nat) : IsDigits (List.replicate n '0') := by
  intro c hc
  rw [List.eq_of_mem_replicate hc]
  rfl

/-- Two rows of digits one after the other are digits. -/
theorem IsDigits.append {a b : List Char} (ha : IsDigits a) (hb : IsDigits b) :
    IsDigits (a ++ b) := by
  intro c hc
  rcases List.mem_append.mp hc with hc | hc
  · exact ha c hc
  · exact hb c hc

/-- Digits are neither points nor the mark of an exponent. -/
theorem IsDigits.ne {cs : List Char} (h : IsDigits cs) {c : Char} (hc : c ∈ cs) :
    c ≠ '.' ∧ c ≠ 'e' := by
  constructor <;> rintro rfl <;> exact absurd (h _ hc) (by decide)

/-- Digits without a point say the number that they write. -/
theorem mantissaSaidBy_of_isDigits {cs : List Char} (h : IsDigits cs) :
    mantissaSaidBy cs = Nat.ofDigitChars 10 cs 0 := by
  have hne : ∀ c ∈ cs, (decide (c ≠ '.')) = true := fun c hc => by simpa using (h.ne hc).1
  have hdrop : cs.dropWhile (· ≠ '.') = [] := List.dropWhile_eq_nil_iff.mpr hne
  rw [mantissaSaidBy, List.filter_eq_self.mpr hne, hdrop]
  simp

/-- Digits on both sides of a point say the number that all of them write, cut by the point. -/
theorem mantissaSaidBy_point {whole part : List Char} (hwhole : IsDigits whole)
    (hpart : IsDigits part) : mantissaSaidBy (whole ++ '.' :: part) =
      Nat.ofDigitChars 10 (whole ++ part) 0 / 10 ^ part.length := by
  have hne : ∀ {cs : List Char}, IsDigits cs → ∀ c ∈ cs, (decide (c ≠ '.')) = true :=
    fun hcs c hc => by simpa using (hcs.ne hc).1
  have hfilter : (whole ++ '.' :: part).filter (· ≠ '.') = whole ++ part := by
    rw [List.filter_append, List.filter_cons_of_neg (by simp), List.filter_eq_self.mpr (hne hwhole),
      List.filter_eq_self.mpr (hne hpart)]
  have hdrop : (whole ++ '.' :: part).dropWhile (· ≠ '.') = '.' :: part := by
    rw [List.dropWhile_append_of_pos (hne hwhole)]
    simp
  rw [mantissaSaidBy, hfilter, hdrop, List.tail_cons]

/-- A text without an exponent says what its digits and its point say. -/
theorem saidBy_of_not_mem {cs : List Char} (h : 'e' ∉ cs) : saidBy cs = mantissaSaidBy cs := by
  have hne : ∀ c ∈ cs, (decide (c ≠ 'e')) = true := by
    intro c hc
    simpa using ne_of_mem_of_not_mem hc h
  have htake : cs.takeWhile (· ≠ 'e') = cs := List.takeWhile_eq_self_iff.mpr hne
  have hdrop : cs.dropWhile (· ≠ 'e') = [] := List.dropWhile_eq_nil_iff.mpr hne
  rw [saidBy, htake, hdrop]
  simp [exponentSaidBy]

/-- A text with an exponent says what stands in front of it, times a power of ten. -/
theorem saidBy_exponent {mantissa exponent : List Char} (h : 'e' ∉ mantissa) :
    saidBy (mantissa ++ 'e' :: exponent) =
      mantissaSaidBy mantissa * 10 ^ exponentSaidBy exponent := by
  have hne : ∀ c ∈ mantissa, (decide (c ≠ 'e')) = true := by
    intro c hc
    simpa using ne_of_mem_of_not_mem hc h
  have htake : (mantissa ++ 'e' :: exponent).takeWhile (· ≠ 'e') = mantissa := by
    rw [List.takeWhile_append_of_pos hne]
    simp
  have hdrop : (mantissa ++ 'e' :: exponent).dropWhile (· ≠ 'e') = 'e' :: exponent := by
    rw [List.dropWhile_append_of_pos hne]
    simp
  rw [saidBy, htake, hdrop, List.tail_cons]

/-- An exponent says the integer that it was written for. -/
theorem exponentSaidBy_exponentText (e : Int) : exponentSaidBy (exponentText e).toList = e := by
  have hdigits : ∀ digits : String, Nat.ofDigitChars 10 digits.toList 0 = e.natAbs →
      exponentSaidBy ((if e < 0 then "-" else "+") ++ digits).toList = e := by
    intro digits hdigits
    by_cases hneg : e < 0
    · rw [if_pos hneg, String.toList_append]
      show -(Nat.ofDigitChars 10 digits.toList 0 : Int) = e
      rw [hdigits]
      omega
    · rw [if_neg hneg, String.toList_append]
      show (Nat.ofDigitChars 10 digits.toList 0 : Int) = e
      rw [hdigits]
      omega
  refine hdigits _ ?_
  split
  · rw [String.toList_append]
    show Nat.ofDigitChars 10 ('0' :: (toString e.natAbs).toList) 0 = _
    rw [Nat.ofDigitChars_cons, toList_toString_nat]
    simp
  · rw [toList_toString_nat, Nat.ofDigitChars_ten_toDigits]

/-- A text of digits with a point among them says all its digits, cut by the point. -/
theorem saidBy_point {whole part : List Char} (hwhole : IsDigits whole) (hpart : IsDigits part) :
    saidBy (whole ++ '.' :: part) = Nat.ofDigitChars 10 (whole ++ part) 0 / 10 ^ part.length := by
  rw [saidBy_of_not_mem, mantissaSaidBy_point hwhole hpart]
  intro hmem
  rcases List.mem_append.mp hmem with hmem | hmem
  · exact (hwhole.ne hmem).2 rfl
  · rcases List.mem_cons.mp hmem with heq | hmem
    · exact absurd heq (by decide)
    · exact (hpart.ne hmem).2 rfl

/-- Cutting off places is multiplying by a power of ten below one. -/
theorem div_ten_pow (a : ℚ) {places : Nat} {exponent : Int} (h : exponent = -(places : Int)) :
    a / 10 ^ places = a * 10 ^ exponent := by
  rw [h, zpow_neg, zpow_natCast, div_eq_mul_inv]

/-- The digits of a decimal with its point inside them. -/
theorem value_pointInside {ds : List Char} {exponent : Int} {whole : Nat}
    (hwhole : (whole : Int) = ds.length + exponent) (hneg : exponent < 0) :
    (Nat.ofDigitChars 10 (ds.take whole ++ ds.drop whole) 0 : ℚ) / 10 ^ (ds.drop whole).length =
      Nat.ofDigitChars 10 ds 0 * 10 ^ exponent := by
  rw [List.take_append_drop]
  refine div_ten_pow _ ?_
  rw [List.length_drop]
  omega

/-- The digits of a decimal with zeros behind them. -/
theorem value_zerosAfter {ds : List Char} {exponent : Int} (hpos : 0 ≤ exponent) :
    (Nat.ofDigitChars 10 (ds ++ List.replicate exponent.toNat '0' ++ ['0']) 0 : ℚ) / 10 ^ 1 =
      Nat.ofDigitChars 10 ds 0 * 10 ^ exponent := by
  have hzeros : List.replicate exponent.toNat '0' ++ ['0'] =
      List.replicate (exponent.toNat + 1) '0' := (List.replicate_succ' ..).symm
  rw [List.append_assoc, hzeros, Nat.ofDigitChars_append, Nat.ofDigitChars_replicate_zero]
  have hexponent : exponent = (exponent.toNat : Int) := by omega
  rw [hexponent, zpow_natCast, Int.toNat_natCast]
  push_cast
  ring

/-- The digits of a decimal with zeros before them. -/
theorem value_zerosBefore {ds : List Char} {exponent : Int} {places : Nat}
    (hplaces : (places : Int) = -exponent - ds.length) :
    (Nat.ofDigitChars 10 (['0'] ++ (List.replicate places '0' ++ ds)) 0 : ℚ) /
        10 ^ (List.replicate places '0' ++ ds).length =
      Nat.ofDigitChars 10 ds 0 * 10 ^ exponent := by
  have hzero : Nat.ofDigitChars 10 (['0'] ++ List.replicate places '0') 0 = 0 := by
    rw [Nat.ofDigitChars_append, Nat.ofDigitChars_replicate_zero]
    rfl
  rw [← List.append_assoc, Nat.ofDigitChars_append, hzero]
  refine div_ten_pow _ ?_
  rw [List.length_append, List.length_replicate]
  omega

/-- What a decimal says that is written with an exponent. -/
theorem saidBy_scientific {first : Char} {rest : List Char} (hds : IsDigits (first :: rest))
    {exponent top : Int} (htop : top = exponent + rest.length) :
    saidBy ([first] ++ (if rest = [] then [] else '.' :: rest) ++
        'e' :: (exponentText top).toList) =
      Nat.ofDigitChars 10 (first :: rest) 0 * 10 ^ exponent := by
  have hfirst : IsDigits [first] := fun c hc => hds c (by simp_all)
  have hrest : IsDigits rest := fun c hc => hds c (List.mem_cons_of_mem _ hc)
  have hmantissa : mantissaSaidBy ([first] ++ if rest = [] then [] else '.' :: rest) =
      Nat.ofDigitChars 10 (first :: rest) 0 / 10 ^ rest.length := by
    by_cases hnil : rest = []
    · rw [if_pos hnil, List.append_nil, mantissaSaidBy_of_isDigits hfirst, hnil]
      simp
    · rw [if_neg hnil, mantissaSaidBy_point hfirst hrest]
      rfl
  have hmark : 'e' ∉ [first] ++ if rest = [] then [] else '.' :: rest := by
    intro hmem
    rcases List.mem_append.mp hmem with hmem | hmem
    · exact (hfirst.ne hmem).2 rfl
    · split at hmem
      · simp at hmem
      · rcases List.mem_cons.mp hmem with heq | hmem
        · exact absurd heq (by decide)
        · exact (hrest.ne hmem).2 rfl
  rw [saidBy_exponent hmark, hmantissa, exponentSaidBy_exponentText, htop,
    zpow_add₀ (by norm_num), zpow_natCast]
  field_simp

/-- **A decimal written plain** has digits on both sides of its point. -/
theorem decimalText_plain {digits : Nat} {exponent : Int}
    (hplain : -4 ≤ exponent + (Nat.toDigits 10 digits).length - 1 ∧
      exponent + (Nat.toDigits 10 digits).length - 1 < 16) :
    ∃ whole part, whole ≠ [] ∧ IsDigits whole ∧ IsDigits part ∧
      (decimalText digits exponent).toList = whole ++ '.' :: part ∧
      (Nat.ofDigitChars 10 (whole ++ part) 0 : ℚ) / 10 ^ part.length = digits * 10 ^ exponent := by
  have hdigits := isDigits_toDigits digits
  have hpos : 0 < (Nat.toDigits 10 digits).length := Nat.length_toDigits_pos
  have hsaid : Nat.ofDigitChars 10 (Nat.toDigits 10 digits) 0 = digits :=
    Nat.ofDigitChars_ten_toDigits
  have hone : ".0".toList = ['.', '0'] := by rfl
  have hpoint : ".".toList = ['.'] := by rfl
  have hbefore : "0.".toList = ['0', '.'] := by rfl
  unfold decimalText
  simp only [length_toString_nat]
  rw [if_pos hplain]
  split_ifs with hexponent htop
  · rw [String.toList_append, String.toList_append, toList_toString_nat, hone, zeros,
      String.toList_ofList]
    refine ⟨_, ['0'], by simp, hdigits.append (isDigits_replicate _), isDigits_replicate 1, rfl, ?_⟩
    rw [List.length_singleton, value_zerosAfter hexponent, hsaid]
  · rw [String.toList_append, String.toList_append, toList_toString_nat, hpoint,
      String.toList_ofList, String.toList_ofList, List.append_assoc]
    refine ⟨_, _, ?_, fun c hc => hdigits c (List.mem_of_mem_take hc),
      fun c hc => hdigits c (List.mem_of_mem_drop hc), rfl, ?_⟩
    · rw [← List.length_pos_iff, List.length_take]
      omega
    · have hneg : exponent < 0 := by omega
      rw [value_pointInside (by omega) hneg, hsaid]
  · rw [String.toList_append, String.toList_append, toList_toString_nat, hbefore, zeros,
      String.toList_ofList, List.append_assoc]
    refine ⟨['0'], _, by simp, isDigits_replicate 1, (isDigits_replicate _).append hdigits, rfl, ?_⟩
    have hplaces : ((-(exponent + ((Nat.toDigits 10 digits).length : Int) - 1) - 1).toNat : Int) =
        -exponent - (Nat.toDigits 10 digits).length := by omega
    rw [value_zerosBefore hplaces, hsaid]

/-- Digits behind a point, if there are any. -/
theorem toList_pointBefore (rest : List Char) :
    (if (String.ofList rest).isEmpty then "" else "." ++ String.ofList rest).toList =
      if rest = [] then [] else '.' :: rest := by
  by_cases hnil : rest = []
  · rw [if_pos hnil, if_pos (by rw [hnil]; rfl)]
    rfl
  · have hfull : ¬ (String.ofList rest).isEmpty = true := by
      simpa [String.isEmpty_iff, ← String.toList_inj] using hnil
    rw [if_neg hnil, if_neg hfull, String.toList_append]
    exact congrArg ('.' :: ·) String.toList_ofList

/-- **A decimal written with an exponent** has its point after the first digit, if there are
more. -/
theorem decimalText_scientific {digits : Nat} {exponent : Int}
    (hfar : ¬ (-4 ≤ exponent + (Nat.toDigits 10 digits).length - 1 ∧
      exponent + (Nat.toDigits 10 digits).length - 1 < 16)) :
    ∃ first rest, ∃ top : Int, IsDigits (first :: rest) ∧
      (decimalText digits exponent).toList =
        [first] ++ (if rest = [] then [] else '.' :: rest) ++ 'e' :: (exponentText top).toList ∧
      top = exponent + rest.length ∧ Nat.ofDigitChars 10 (first :: rest) 0 = digits := by
  have hdigits := isDigits_toDigits digits
  have hsaid : Nat.ofDigitChars 10 (Nat.toDigits 10 digits) 0 = digits :=
    Nat.ofDigitChars_ten_toDigits
  have hmark : "e".toList = ['e'] := by rfl
  obtain ⟨first, rest, hcons⟩ :=
    List.exists_cons_of_length_pos (Nat.length_toDigits_pos (b := 10) (n := digits))
  unfold decimalText
  simp only [length_toString_nat, toList_toString_nat]
  rw [if_neg hfar]
  rw [hcons] at hdigits hsaid ⊢
  refine ⟨first, rest, exponent + ((first :: rest).length : Int) - 1, hdigits, ?_, ?_, hsaid⟩
  · rw [List.drop_one, List.tail_cons, List.take_succ_cons, List.take_zero, String.toList_append,
      String.toList_append, String.toList_append, toList_pointBefore, hmark, String.toList_ofList]
    simp only [List.append_assoc, List.cons_append, List.nil_append]
  · rw [List.length_cons]
    omega

/-- **How a decimal is written.**  Plain, with digits on both sides of a point, or with its point
after the first digit, if there are more, and an exponent. -/
theorem decimalText_cases (digits : Nat) (exponent : Int) :
    (∃ whole part, whole ≠ [] ∧ IsDigits whole ∧ IsDigits part ∧
      (decimalText digits exponent).toList = whole ++ '.' :: part ∧
      (Nat.ofDigitChars 10 (whole ++ part) 0 : ℚ) / 10 ^ part.length = digits * 10 ^ exponent) ∨
    (∃ first rest, ∃ top : Int, IsDigits (first :: rest) ∧
      (decimalText digits exponent).toList =
        [first] ++ (if rest = [] then [] else '.' :: rest) ++ 'e' :: (exponentText top).toList ∧
      top = exponent + rest.length ∧ Nat.ofDigitChars 10 (first :: rest) 0 = digits) :=
  (Decidable.em _).imp decimalText_plain decimalText_scientific

/-- **The text of a decimal says that decimal.** -/
theorem saidBy_decimalText (digits : Nat) (exponent : Int) :
    saidBy (decimalText digits exponent).toList = digits * 10 ^ exponent := by
  rcases decimalText_cases digits exponent with
    ⟨whole, part, -, hwhole, hpart, htext, hvalue⟩ | ⟨first, rest, top, hds, htext, htop, hvalue⟩
  · rw [htext, saidBy_point hwhole hpart, hvalue]
  · rw [htext, saidBy_scientific hds htop, hvalue]

/-- Can `c` stand in the text of a number after its first digit? -/
def isNumeralChar (c : Char) : Bool := c.isDigit || c == '.' || c == 'e' || c == '+' || c == '-'

/-- The text of an exponent is made of characters of numbers. -/
theorem isNumeralChar_of_mem_exponentText {e : Int} {c : Char}
    (hc : c ∈ (exponentText e).toList) : isNumeralChar c = true := by
  have hdigit : c ∈ (toString e.natAbs).toList → isNumeralChar c = true := by
    intro hmem
    rw [toList_toString_nat] at hmem
    simp [isNumeralChar, isDigits_toDigits _ c hmem]
  have hsign : c ∈ (if e < 0 then "-" else "+").toList → isNumeralChar c = true := by
    intro hmem
    split at hmem
    · obtain rfl : c = '-' := by simpa using hmem
      rfl
    · obtain rfl : c = '+' := by simpa using hmem
      rfl
  have hzero : c ∈ "0".toList → isNumeralChar c = true := by
    intro hmem
    obtain rfl : c = '0' := by simpa using hmem
    rfl
  unfold exponentText at hc
  dsimp only at hc
  rw [String.toList_append] at hc
  rcases List.mem_append.mp hc with hc | hc
  · exact hsign hc
  · split at hc
    · rw [String.toList_append] at hc
      rcases List.mem_append.mp hc with hc | hc
      · exact hzero hc
      · exact hdigit hc
    · exact hdigit hc

/-- The text of a decimal is a digit, followed by characters of numbers, among them a point or
the mark of an exponent. -/
theorem decimalText_chars (digits : Nat) (exponent : Int) :
    ∃ first rest, (decimalText digits exponent).toList = first :: rest ∧ first.isDigit = true ∧
      (∀ c ∈ rest, isNumeralChar c = true) ∧ ∃ c ∈ rest, c.isDigit = false ∧ c ≠ '-' := by
  have hdigit : ∀ {cs : List Char}, IsDigits cs → ∀ c ∈ cs, isNumeralChar c = true :=
    fun hcs c hc => by simp [isNumeralChar, hcs c hc]
  rcases decimalText_cases digits exponent with
    ⟨whole, part, hne, hwhole, hpart, htext, -⟩ | ⟨first, rest, top, hds, htext, -, -⟩
  · obtain ⟨first, more, rfl⟩ := List.exists_cons_of_ne_nil hne
    refine ⟨first, more ++ '.' :: part, htext, hwhole _ (by simp), ?_, '.', by simp, by decide⟩
    intro c hc
    rcases List.mem_append.mp hc with hc | hc
    · exact hdigit hwhole c (by simp [hc])
    · rcases List.mem_cons.mp hc with rfl | hc
      · rfl
      · exact hdigit hpart c hc
  · refine ⟨first, _, htext, hds _ (by simp), ?_, 'e', by simp, by decide⟩
    intro c hc
    rcases List.mem_append.mp hc with hc | hc
    · split at hc
      · simp at hc
      · rcases List.mem_cons.mp hc with rfl | hc
        · rfl
        · exact hdigit hds c (by simp [hc])
    · rcases List.mem_cons.mp hc with rfl | hc
      · rfl
      · exact isNumeralChar_of_mem_exponentText hc

end Intake.Binary64
