import Intake.Number.Numeral
import Intake.Proofs.Text.Blank

/-!
# Two ways to read a numeral

A text is read as an integer, or as a floating-point number.  The two readers take a numeral apart
in a different order: the one looks for the sign before it drops low lines, the other after that.
Where the first finds an integer the second finds digits alone, without a point and without an
exponent, and so it finds the number that the integer is rounded to.  Only the zero of a text with a
minus is another: the integer has no sign then, and the number has.

* `readInt_strip` and `readFloat?_strip` say that blanks around a numeral do not count;
* `exists_digits_of_readInt` is what a text looks like in which an integer is found;
* `readFloat?_of_readInt` is the comparison of the two readers.
-/

namespace Intake.Numeral

open Intake.Text

/-! ## Blanks around a numeral -/

/-- A text has the characters of a numeral that it has without the blanks around it. -/
theorem plain_strip (s : String) : plain (strip s) = plain s := by
  have hstripped : stripChars (strip s).toList = stripChars s.toList := by
    rw [strip, String.toList_ofList, (trimmed_stripChars s.toList).stripChars_eq]
  rw [plain, hstripped, plain]

/-- Blanks around an integer do not count. -/
theorem readInt_strip (s : String) : readInt (strip s) = readInt s := by
  rw [readInt, plain_strip, readInt]

/-- Blanks around a floating-point number do not count. -/
theorem readFloat?_strip (s : String) : readFloat? (strip s) = readFloat? s := by
  rw [readFloat?, plain_strip, readFloat?]

/-! ## Signs, low lines and digits -/

/-- A row of digits, at least one. -/
def Digits (cs : List Char) : Prop := cs ≠ [] ∧ ∀ c ∈ cs, isDigit c = true

/-- A character other than a low line stays. -/
theorem dropLowLines_cons {c : Char} (h : c ≠ '_') (before : Bool) (rest : List Char) :
    dropLowLines before (c :: rest) = (dropLowLines (isDigit c) rest).map (c :: ·) := by
  rw [dropLowLines]
  · intro d more hline _
    exact h hline
  · intro hline _
    exact h hline

/-- Without a sign in front there is none. -/
theorem sign_of_ne {c : Char} {rest : List Char} (hminus : c ≠ '-') (hplus : c ≠ '+') :
    sign (c :: rest) = (false, c :: rest) := by
  unfold sign
  split
  · rename_i heq
    exact absurd (List.cons.inj heq).1 hminus
  · rename_i heq
    exact absurd (List.cons.inj heq).1 hplus
  · rfl

/-- A sign stands in front or does not. -/
theorem sign_cases (cs : List Char) :
    (∃ mark rest, cs = mark :: rest ∧ mark ≠ '_' ∧ isDigit mark = false ∧
      ∀ other, sign (mark :: other) = ((sign cs).1, other)) ∨ sign cs = (false, cs) := by
  cases cs with
  | nil => exact .inr rfl
  | cons c rest =>
    by_cases hminus : c = '-'
    · subst hminus
      exact .inl ⟨'-', rest, rfl, by decide, rfl, fun _ => rfl⟩
    · by_cases hplus : c = '+'
      · subst hplus
        exact .inl ⟨'+', rest, rfl, by decide, rfl, fun _ => rfl⟩
      · exact .inr (sign_of_ne hminus hplus)

/-- Digits have no sign in front. -/
theorem Digits.sign_eq {cs : List Char} (h : Digits cs) : sign cs = (false, cs) := by
  obtain ⟨hne, hdigits⟩ := h
  cases cs with
  | nil => exact absurd rfl hne
  | cons c rest =>
    have hc := hdigits c (by simp)
    have hminus : c ≠ '-' := by
      rintro rfl
      exact absurd hc (by decide)
    have hplus : c ≠ '+' := by
      rintro rfl
      exact absurd hc (by decide)
    exact sign_of_ne hminus hplus

/-- It does not matter whether low lines are dropped before the sign is looked for, or after. -/
theorem sign_dropLowLines {cs ds : List Char} (hdigits : Digits ds)
    (h : dropLowLines false (sign cs).2 = some ds) :
    ∃ kept, dropLowLines false cs = some kept ∧ sign kept = ((sign cs).1, ds) := by
  rcases sign_cases cs with ⟨mark, rest, rfl, hline, hdigit, hsign⟩ | hnone
  · refine ⟨mark :: ds, ?_, hsign ds⟩
    rw [hsign rest] at h
    rw [dropLowLines_cons hline, hdigit, h]
    rfl
  · rw [hnone] at h ⊢
    exact ⟨ds, h, hdigits.sign_eq⟩

/-! ## Digits alone -/

/-- Digits spell no name. -/
theorem Digits.named?_eq {cs : List Char} (h : Digits cs) (negative : Bool) :
    named? negative cs = none := by
  obtain ⟨hne, hdigits⟩ := h
  cases cs with
  | nil => exact absurd rfl hne
  | cons c rest =>
    have hc : '0' ≤ c ∧ c ≤ '9' := by simpa [isDigit] using hdigits c (by simp)
    have hsmall : c.toLower = c := by
      unfold Char.toLower
      split
      · rename_i hupper
        exact absurd (Char.le_trans hupper.1 hc.2) (by decide)
      · rfl
    have hname : ∀ {first : Char} {name : String}, name.toList.head? = some first → '9' < first →
        String.ofList ((c :: rest).map Char.toLower) ≠ name := by
      rintro first name hfirst hafter rfl
      obtain rfl : c = first := by simpa [hsmall] using hfirst
      exact absurd hc.2 (Char.not_le.mpr hafter)
    unfold named?
    rw [if_neg, if_neg]
    · exact hname rfl (by decide : '9' < 'n')
    · rintro (heq | heq)
      · exact hname rfl (by decide : '9' < 'i') heq
      · exact hname rfl (by decide : '9' < 'i') heq

/-- Digits alone are a decimal without a fraction and without an exponent. -/
theorem Digits.decimal?_eq {cs : List Char} (h : Digits cs) (negative : Bool) :
    decimal? negative cs = some (.ofDecimal negative (ofDigits cs) 0) := by
  obtain ⟨hne, hdigits⟩ := h
  have htake : cs.takeWhile isDigit = cs := List.takeWhile_eq_self_iff.mpr hdigits
  have hdrop : cs.dropWhile isDigit = [] := List.dropWhile_eq_nil_iff.mpr hdigits
  have hsome : cs.isEmpty = false := by simpa using hne
  simp [decimal?, htake, hdrop, hsome, exponent?]

/-- Digits alone are the number that the integer is rounded to which they write. -/
theorem ofDecimal_zero (negative : Bool) {digits : Nat} (h : digits ≠ 0) :
    Binary64.ofDecimal negative digits 0 =
      Binary64.ofInt (if negative then -(digits : Int) else digits) := by
  have hsize : ¬((0 : Int) + (Nat.log2 digits / 3 + 1 : Nat) < -400) := by omega
  unfold Binary64.ofDecimal
  rw [if_neg h, if_neg (by decide), if_neg hsize, if_pos (by decide)]
  show Binary64.round negative (digits * 1 * Binary64.grainsPerUnit) 1 = _
  rw [Nat.mul_one, Binary64.ofInt]
  cases negative with
  | true =>
    have hbelow : decide (-(digits : Int) < 0) = true := by simpa using Nat.pos_of_ne_zero h
    rw [if_pos rfl, hbelow, Int.natAbs_neg, Int.natAbs_natCast]
  | false =>
    have hnot : decide ((digits : Int) < 0) = false := by simp
    rw [if_neg (by decide), hnot, Int.natAbs_natCast]

/-! ## The two readers -/

/-- A text in which an integer is found has digits behind its sign, which write it. -/
theorem exists_digits_of_readInt {s : String} {n : Int} (h : readInt s = .ok n) :
    ∃ ds, dropLowLines false (sign (plain s)).2 = some ds ∧ Digits ds ∧
      n = if (sign (plain s)).1 then -(ofDigits ds : Int) else ofDigits ds := by
  unfold readInt at h
  dsimp only at h
  split at h
  · cases h
  · rename_i ds hds
    split at h
    · cases h
    · rename_i hdigits
      split at h
      · cases h
      · rw [Bool.or_eq_true, not_or] at hdigits
        obtain ⟨hne, hall⟩ := hdigits
        refine ⟨ds, hds, ⟨by simpa using hne, ?_⟩, (Except.ok.inj h).symm⟩
        simpa using hall

/-- Digits behind a sign are read as the floating-point number that they write. -/
theorem readFloat?_of_digits {s : String} {ds : List Char}
    (hds : dropLowLines false (sign (plain s)).2 = some ds) (hdigits : Digits ds) :
    readFloat? s = some (.ofDecimal (sign (plain s)).1 (ofDigits ds) 0) := by
  obtain ⟨kept, hkept, hsign⟩ := sign_dropLowLines hdigits hds
  unfold readFloat?
  simp only [hkept, hsign, hdigits.named?_eq, hdigits.decimal?_eq]

/-- **The two readers agree.**  A text in which an integer is found is read as the floating-point
number that the integer is rounded to, except that zero may have a minus. -/
theorem readFloat?_of_readInt {s : String} {n : Int} (h : readInt s = .ok n) :
    readFloat? s = some (Binary64.ofInt n) ∨
      n = 0 ∧ readFloat? s = some (Binary64.zeroOf (sign (plain s)).1) := by
  obtain ⟨ds, hds, hdigits, hn⟩ := exists_digits_of_readInt h
  have hread := readFloat?_of_digits hds hdigits
  by_cases hzero : ofDigits ds = 0
  · refine .inr ⟨by simp [hn, hzero], ?_⟩
    rw [hread, Binary64.ofDecimal, if_pos hzero]
  · rw [hread, ofDecimal_zero _ hzero, ← hn]
    exact .inl rfl

end Intake.Numeral
