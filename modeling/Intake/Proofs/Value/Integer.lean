import Intake.Proofs.Number.Range
import Intake.Proofs.Text.Chart
import Intake.Proofs.Value.Amount
import Intake.Proofs.Value.Canonical

/-!
# Integers survive cleaning

An integer is cleaned as it is, and its decimal text, whatever blanks are around it, is cleaned to
the same integer, so that no digit of it is lost.  A text reaches the integer without becoming a
floating-point number on the way, unless it is of so many digits that no integer is read from it;
and an integer of so many digits is far beyond the range.

* `plain_toString` says that the decimal text of an integer is a numeral as it stands;
* `numberText_toString` says that it is cleaned like the integer;
* `integers_survive` is the main statement, for integers within the range and for others.
-/

namespace Intake

namespace Numeral

open Text

/-! ## The decimal text of an integer -/

/-- The decimal text of an integer is its sign and its digits. -/
theorem toList_toString (n : Int) :
    (toString n).toList = (if n < 0 then ['-'] else []) ++ Nat.toDigits 10 n.natAbs := by
  rw [Int.toString_eq_repr, Int.repr_eq_if]
  by_cases hneg : n < 0
  · have hback : (-n).toNat = n.natAbs := by omega
    rw [if_neg (by omega), if_pos hneg, hback, String.toList_append, Nat.toList_repr]
    rfl
  · have hback : n.toNat = n.natAbs := by omega
    rw [if_pos (by omega), if_neg hneg, hback, Nat.toList_repr, List.nil_append]

/-- A digit of a number is a digit of a numeral. -/
theorem isDigit_of_mem_toDigits {n : Nat} {c : Char} (hc : c ∈ Nat.toDigits 10 n) :
    isDigit c = true := by
  have hdigit : c.isDigit = true := Nat.isDigit_of_mem_toDigits (by decide) (by decide) hc
  exact hdigit

/-- The digits of a number are a row of digits. -/
theorem digits_toDigits (n : Nat) : Digits (Nat.toDigits 10 n) :=
  ⟨Nat.toDigits_ne_nil, fun _ => isDigit_of_mem_toDigits⟩

/-- The digits of a number write it. -/
theorem ofDigits_toDigits (n : Nat) : ofDigits (Nat.toDigits 10 n) = n := by
  have hsame : ∀ cs, ofDigits cs = Nat.ofDigitChars 10 cs 0 := by
    intro cs
    unfold ofDigits Nat.ofDigitChars
    simp only [Nat.mul_comm]
  rw [hsame, Nat.ofDigitChars_ten_toDigits]

/-- The digits have neighbouring code points. -/
theorem code_of_isDigit {c : Char} (h : isDigit c = true) : 48 ≤ c.toNat ∧ c.toNat ≤ 57 := by
  obtain ⟨hlow, hhigh⟩ : '0' ≤ c ∧ c ≤ '9' := by simpa [isDigit] using h
  exact ⟨char_le_iff.mp hlow, char_le_iff.mp hhigh⟩

/-- A digit stands for itself in a numeral. -/
theorem digitValue?_of_isDigit {c : Char} (h : isDigit c = true) :
    ∃ d, digitValue? c = some d ∧ Char.ofNat ('0'.toNat + d) = c := by
  obtain ⟨hlow, hhigh⟩ := code_of_isDigit h
  refine ⟨c.toNat - '0'.toNat, ?_, ?_⟩
  · rw [digitValue?, if_pos (by omega), if_pos (by simpa [isDigit] using h)]
  · have hcode : '0'.toNat + (c.toNat - '0'.toNat) = c.toNat := Nat.add_sub_cancel' hlow
    rw [hcode, Char.ofNat_toNat]

/-- Digits and signs are not blanks. -/
theorem isBlank_of_isDigit {c : Char} (h : isDigit c = true ∨ c = '-') : isBlank c = false := by
  rcases h with hdigit | rfl
  · obtain ⟨hlow, hhigh⟩ := code_of_isDigit hdigit
    simp [isBlank]
    omega
  · rfl

/-- A text of digits and signs is a numeral as it stands. -/
theorem plain_of_forall {s : String} (h : ∀ c ∈ s.toList, isDigit c = true ∨ c = '-') :
    plain s = s.toList := by
  have htrimmed : IsTrimmed s := isTrimmed_of_forall fun c hc => isBlank_of_isDigit (h c hc)
  rw [plain, Trimmed.stripChars_eq htrimmed]
  refine (List.map_congr_left fun c hc => ?_).trans (List.map_id _)
  rcases h c hc with hdigit | rfl
  · obtain ⟨d, hd, hself⟩ := digitValue?_of_isDigit hdigit
    rw [hd]
    exact hself
  · rfl

/-- The decimal text of an integer is a numeral as it stands. -/
theorem plain_toString (n : Int) : plain (toString n) = (toString n).toList := by
  refine plain_of_forall fun c hc => ?_
  rw [toList_toString] at hc
  rcases List.mem_append.mp hc with hsign | hdigit
  · split at hsign
    · exact .inr (List.mem_singleton.mp hsign)
    · cases hsign
  · exact .inl (isDigit_of_mem_toDigits hdigit)

/-- The sign of the decimal text of an integer is that of the integer, and its digits follow. -/
theorem sign_plain_toString (n : Int) :
    sign (plain (toString n)) = (decide (n < 0), Nat.toDigits 10 n.natAbs) := by
  rw [plain_toString, toList_toString]
  by_cases hneg : n < 0
  · rw [if_pos hneg, decide_eq_true hneg]
    rfl
  · rw [if_neg hneg, decide_eq_false hneg, List.nil_append]
    exact (digits_toDigits _).sign_eq

/-- There are no low lines among digits. -/
theorem Digits.dropLowLines_eq {cs : List Char} (h : Digits cs) (before : Bool) :
    dropLowLines before cs = some cs := by
  obtain ⟨-, hdigits⟩ := h
  induction cs generalizing before with
  | nil => rfl
  | cons c rest ih =>
    obtain ⟨hc, hrest⟩ := List.forall_mem_cons.mp hdigits
    have hline : c ≠ '_' := by
      rintro rfl
      exact absurd hc (by decide)
    rw [dropLowLines_cons hline, ih _ hrest]
    rfl

/-- An integer is what its sign and its digits write. -/
theorem signed_natAbs (n : Int) :
    (if decide (n < 0) then -(n.natAbs : Int) else n.natAbs) = n := by
  by_cases hneg : n < 0
  · simp only [hneg, decide_true, if_true]
    omega
  · simp only [hneg, decide_false, Bool.false_eq_true, if_false]
    omega

/-- An integer is read from its decimal text, unless that has too many digits. -/
theorem readInt_toString (n : Int) : readInt (toString n) =
    if digitLimit < (Nat.toDigits 10 n.natAbs).length then
      .error (.tooLong (Nat.toDigits 10 n.natAbs).length)
    else .ok n := by
  have hdigits := digits_toDigits n.natAbs
  have hfull : (Nat.toDigits 10 n.natAbs).isEmpty = false := by simp
  have hall : (Nat.toDigits 10 n.natAbs).all isDigit = true := List.all_eq_true.mpr hdigits.2
  unfold readInt
  simp only [sign_plain_toString, hdigits.dropLowLines_eq, hfull, hall, ofDigits_toDigits,
    signed_natAbs, Bool.not_true, Bool.or_self, Bool.false_eq_true, if_false]

/-- The number that an integer is rounded to is read from its decimal text, however long. -/
theorem readFloat?_toString {n : Int} (hne : n ≠ 0) :
    readFloat? (toString n) = some (Binary64.ofInt n) := by
  have hdigits := digits_toDigits n.natAbs
  have hds : dropLowLines false (sign (plain (toString n))).2 =
      some (Nat.toDigits 10 n.natAbs) := by
    rw [sign_plain_toString]
    exact hdigits.dropLowLines_eq false
  have hpos : n.natAbs ≠ 0 := Int.natAbs_ne_zero.mpr hne
  rw [readFloat?_of_digits hds hdigits, ofDigits_toDigits, ofDecimal_zero _ hpos,
    sign_plain_toString, signed_natAbs]

/-- An integer of too many digits is not within the range. -/
theorem not_inRange_of_digitLimit {n : Int}
    (h : digitLimit < (Nat.toDigits 10 n.natAbs).length) : ¬ Binary64.InRange n := by
  have hlong : 10 ^ digitLimit ≤ n.natAbs := by
    have hiff := Nat.length_toDigits_le_iff (b := 10) (n := n.natAbs) (k := digitLimit)
      (by decide) (by decide)
    exact Nat.le_of_not_lt fun hshort => absurd (hiff.mpr hshort) (Nat.not_le.mpr h)
  have hbits : ∀ bits, bits ≤ digitLimit → 2 ^ bits ≤ n.natAbs := by
    intro bits hle
    calc 2 ^ bits ≤ 2 ^ digitLimit := Nat.pow_le_pow_right (by decide) hle
      _ ≤ 10 ^ digitLimit := Nat.pow_le_pow_left (by decide) digitLimit
      _ ≤ n.natAbs := hlong
  intro hrange
  have hbelow : n.natAbs < 2 ^ 1024 := lt_of_lt_of_le hrange (Nat.sub_le _ _)
  exact absurd (hbits 1024 (by decide)) (Nat.not_le.mpr hbelow)

end Numeral

namespace Cleaning

/-! ## Cleaning an integer and its text -/

/-- An integer within the range is cleaned as it is, and another becomes zero. -/
theorem integer_of_inRange (n : Int) :
    (Binary64.InRange n → integer n = .int n) ∧ (¬ Binary64.InRange n → integer n = .int 0) := by
  rw [← Binary64.isSome_ofInt?_iff, integer]
  constructor
  · intro hrange
    rw [if_pos hrange]
  · intro hbeyond
    rw [if_neg hbeyond]

/-- The decimal text of an integer is cleaned like the integer. -/
theorem numberText_toString (n : Int) : numberText (toString n) = integer n := by
  unfold numberText
  rw [Numeral.readInt_toString]
  split
  · rename_i hread
    split at hread
    · cases hread
    · obtain rfl := Except.ok.inj hread
      rfl
  · rename_i hread
    split at hread
    · rename_i hlong
      -- too many digits for an integer: the number that is read instead is infinite
      have hbeyond := Numeral.not_inRange_of_digitLimit hlong
      have hne : n ≠ 0 := by
        rintro rfl
        exact absurd hlong (by decide)
      have hinfinite : Binary64.isFinite (Binary64.ofInt n) = false := by
        rw [← Binary64.isSome_ofInt?_iff, Binary64.isSome_ofInt?_eq] at hbeyond
        exact Bool.eq_false_iff.mpr hbeyond
      rw [Numeral.readFloat?_toString hne, (integer_of_inRange n).2 hbeyond]
      exact (decimal_cases _).2 hinfinite
    · cases hread

/-- Blanks around the decimal text of an integer do not count. -/
theorem number_blanks_toString (n : Int) {before after : String}
    (hbefore : Text.isBlankText before = true) (hafter : Text.isBlankText after = true) :
    number (.text (before ++ toString n ++ after)) = integer n := by
  rw [← number_stripped, Value.stripped, Text.strip_append hbefore hafter]
  exact (number_stripped (.text (toString n))).trans (numberText_toString n)

end Cleaning

/-- **Integers survive cleaning.**  An integer is within the range of floating-point numbers exactly
if it is nearer to zero than `2 ^ 1024 - 2 ^ 970`.  Within the range it is cleaned as it is, and its
decimal text, whatever blanks are around it, is cleaned to the same integer; beyond the range both
become zero.  The decimal text is the one in which an integer is written, if it is written at all.
-/
theorem integers_survive (n : Int) {before after : String}
    (hbefore : Text.isBlankText before = true) (hafter : Text.isBlankText after = true) :
    ((Binary64.ofInt? n).isSome = true ↔ n.natAbs < 2 ^ 1024 - 2 ^ 970) ∧
      ((Binary64.ofInt? n).isSome = true →
        Cleaning.number (.int n) = .int n ∧
          Cleaning.number (.text (before ++ toString n ++ after)) = .int n) ∧
      ((Binary64.ofInt? n).isSome = false →
        Cleaning.number (.int n) = .int 0 ∧
          Cleaning.number (.text (before ++ toString n ++ after)) = .int 0) ∧
      ∀ t, Value.intText? n = .ok t → t = toString n := by
  have hrange : (Binary64.ofInt? n).isSome = true ↔ Binary64.InRange n :=
    Binary64.isSome_ofInt?_iff
  have htext := Cleaning.number_blanks_toString n hbefore hafter
  obtain ⟨hwithin, hbeyond⟩ := Cleaning.integer_of_inRange n
  refine ⟨hrange, fun hsome => ?_, fun hnone => ?_, fun t ht => ?_⟩
  · have hstays := hwithin (hrange.mp hsome)
    exact ⟨hstays, htext.trans hstays⟩
  · have hzero := hbeyond (fun h => Bool.false_ne_true (hnone.symm.trans (hrange.mpr h)))
    exact ⟨hzero, htext.trans hzero⟩
  · apply String.toList_inj.mp
    rw [Value.toList_of_intText? ht, Numeral.toList_toString]

/-- The first integer that has no number of its own survives with blanks around it, and the first
one beyond the range becomes zero, written or not. -/
theorem integers_survive_limits : Text.isBlankText "\t " = true ∧ Text.isBlankText "\n" = true ∧
    Cleaning.number (.text "\t 9007199254740993\n") = .int 9007199254740993 ∧
    Cleaning.number (.int ((2 ^ 1024 - 2 ^ 970 : Nat) : Int)) = .int 0 ∧
    Cleaning.number (.text ("\t " ++ toString ((2 ^ 1024 - 2 ^ 970 : Nat) : Int) ++ "\n")) =
      .int 0 := by
  have hbefore : Text.isBlankText "\t " = true := by decide
  have hafter : Text.isBlankText "\n" = true := by decide
  obtain ⟨-, hlong, -, -⟩ := integers_survive 9007199254740993 hbefore hafter
  obtain ⟨hrange, -, hbeyond, -⟩ :=
    integers_survive ((2 ^ 1024 - 2 ^ 970 : Nat) : Int) hbefore hafter
  have hsome : (Binary64.ofInt? 9007199254740993).isSome = true :=
    Binary64.isSome_ofInt? (by decide : 54 < 1024) (by decide)
  have hnone : (Binary64.ofInt? ((2 ^ 1024 - 2 ^ 970 : Nat) : Int)).isSome = false :=
    Bool.eq_false_iff.mpr fun h => Nat.lt_irrefl _ (hrange.mp h)
  have htext : "\t " ++ toString (9007199254740993 : Int) ++ "\n" = "\t 9007199254740993\n" := by
    decide +kernel
  refine ⟨hbefore, hafter, ?_, hbeyond hnone⟩
  rw [← htext]
  exact (hlong hsome).2

end Intake
