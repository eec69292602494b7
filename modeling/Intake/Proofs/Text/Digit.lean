import Intake.Proofs.Text.Chart
import Intake.Text.Blank
import Intake.Text.Digit
import Intake.Text.Markup

/-!
# Digits are ink

A decimal digit of whatever script is neither a blank nor an angle bracket.  The digits beyond ASCII
are looked up in a chart by halving, so what is found is in one of its ranges; and no blank is in
any of them.

* `ValueChart.exists_range_of_search` says that halving finds nothing that is in no range;
* `isBlank_of_isDecimal` and `isBracket_of_isDecimal` are the conclusions.
-/

namespace Intake.Text

/-- What halving finds in a chart is in one of its ranges, at the place that it says. -/
theorem ValueChart.exists_range_of_search {ranges : Array (Nat × Nat × Nat)} {n lo hi : Nat}
    {found : Nat × Nat} (h : search ranges n lo hi = some found) :
    ∃ first last value, (first, last, value) ∈ ranges.toList ∧ first ≤ n ∧ n ≤ last ∧
      found = (n - first, value) := by
  fun_induction search ranges n lo hi with
  | case1 => cases h
  | case2 lo hi hlt first last value hrange hbelow ih => exact ih h
  | case3 lo hi hlt first last value hrange hbelow habove ih => exact ih h
  | case4 lo hi hlt first last value hrange hbelow habove =>
    have hmem : (first, last, value) ∈ ranges.toList := by
      rw [← Array.getElem?_toList] at hrange
      exact List.mem_of_getElem? hrange
    exact ⟨first, last, value, hmem, Nat.not_lt.mp hbelow, Nat.not_lt.mp habove,
      (Option.some.inj h).symm⟩
  | case5 => cases h

/-- The code points of the blanks. -/
def blankCodes : List Nat :=
  List.range' 9 5 ++ List.range' 28 5 ++ [0x85, 0xA0, 0x1680] ++ List.range' 0x2000 11 ++
    [0x2028, 0x2029, 0x202F, 0x205F, 0x3000]

/-- There are no other blanks. -/
theorem mem_blankCodes {c : Char} (h : isBlank c = true) : c.toNat ∈ blankCodes := by
  unfold isBlank at h
  simp only [Bool.or_eq_true, Bool.and_eq_true, decide_eq_true_eq, beq_iff_eq] at h
  simp only [blankCodes, List.mem_append, List.mem_range'_1, List.mem_cons, List.not_mem_nil]
  omega

/-- No blank is among the ten digits of a script. -/
theorem blankCodes_apart : ∀ start ∈ runningSums 0 (numbers zeroRow), ∀ n ∈ blankCodes,
    n < start ∨ start + 9 < n := by
  rw [numbers_eq]
  simp only [zeroRow, String.toList_join, List.flatMap_cons, List.flatMap_nil]
  repeat rw [String.toList_ofList]
  decide

/-- A decimal digit is an ASCII one, or one of the ten of some script. -/
theorem isDecimal_cases {c : Char} (h : isDecimal c = true) :
    (48 ≤ c.toNat ∧ c.toNat ≤ 57) ∨
      ∃ start ∈ runningSums 0 (numbers zeroRow), start ≤ c.toNat ∧ c.toNat ≤ start + 9 := by
  unfold isDecimal digitValue? at h
  split at h
  · split at h
    · rename_i hdigit
      exact .inl ⟨char_le_iff.mp hdigit.1, char_le_iff.mp hdigit.2⟩
    · cases h
  · rw [Option.isSome_map] at h
    obtain ⟨found, hfound⟩ := Option.isSome_iff_exists.mp h
    obtain ⟨first, last, value, hrange, hfirst, hlast, -⟩ :=
      ValueChart.exists_range_of_search hfound
    simp only [digitChart, List.mem_map] at hrange
    obtain ⟨start, hstart, heq⟩ := hrange
    obtain ⟨rfl, rfl, -⟩ : start = first ∧ start + 9 = last ∧ start = value := by simpa using heq
    exact .inr ⟨start, hstart, hfirst, hlast⟩

/-- **A decimal digit is no blank.** -/
theorem isBlank_of_isDecimal {c : Char} (h : isDecimal c = true) : isBlank c = false := by
  rw [Bool.eq_false_iff]
  intro hblank
  have hcode := mem_blankCodes hblank
  rcases isDecimal_cases h with hdigit | ⟨start, hstart, hrange⟩
  · have hapart : ∀ n ∈ blankCodes, ¬ (48 ≤ n ∧ n ≤ 57) := by decide
    exact hapart _ hcode hdigit
  · have hapart := blankCodes_apart start hstart _ hcode
    omega

/-- **A decimal digit is no angle bracket.** -/
theorem isBracket_of_isDecimal {c : Char} (h : isDecimal c = true) :
    Markup.isBracket c = false := by
  rw [Bool.eq_false_iff]
  intro hbracket
  rw [Markup.isBracket, Bool.or_eq_true, beq_iff_eq, beq_iff_eq] at hbracket
  rcases hbracket with rfl | rfl
  · exact absurd h (by decide)
  · exact absurd h (by decide)

end Intake.Text
