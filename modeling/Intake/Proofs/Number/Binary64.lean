import Intake.Number.Binary64
import Mathlib.Algebra.Order.Ring.Nat
import Mathlib.Tactic.Ring

/-!
# What rounding to 64 bits keeps

A quotient of grains is rounded to one of its two neighbours among the integers at the place
that leaves 53 bits, and only the height of that place decides whether the number is finite.  So a
quotient within the range becomes a finite number; and integers that count things in a computer are
far within the range.

* `exists_round_eq` says all that rounding does;
* `isFinite_round` and `isSome_ofInt?` are the two conclusions.
-/

namespace Intake.Binary64

/-- A magnitude of few bits, moved up, has as many bits more. -/
theorem mul_two_pow_lt_iff {n bits : Nat} (up : Nat) :
    n * 2 ^ up < 2 ^ (bits + up) ↔ n < 2 ^ bits := by
  rw [Nat.pow_add, Nat.mul_lt_mul_right (Nat.two_pow_pos up)]

/-- A magnitude of many bits, moved up, has as many bits more. -/
theorem two_pow_le_mul_iff {n bits : Nat} (up : Nat) :
    2 ^ (bits + up) ≤ n * 2 ^ up ↔ 2 ^ bits ≤ n := by
  rw [← Nat.not_lt, mul_two_pow_lt_iff, Nat.not_lt]

/-- The grains of a unit are counted by a high power of two. -/
theorem grainsPerUnit_eq : grainsPerUnit = 2 ^ 1074 := by
  have hshift : ∀ fine : Nat, 1 <<< fine = 2 ^ fine := Nat.one_shiftLeft
  exact hshift 1074

/-- The significand of a number has at most 53 bits, and all of them unless its place is the
lowest. -/
theorem isSignificand_iff {significand place : Nat} : isSignificand significand place = true ↔
    significand < 2 ^ 53 ∧ place ≤ 2045 ∧ (place = 0 ∨ 2 ^ 52 ≤ significand) := by
  simp only [isSignificand, Nat.one_shiftLeft, Bool.and_eq_true, Bool.or_eq_true,
    decide_eq_true_eq, beq_iff_eq, and_assoc]

/-- Parts make a finite number exactly if they are a significand and its place. -/
theorem isFinite_ofParts (negative : Bool) (m p : Nat) :
    (ofParts negative m p).isFinite = isSignificand m p := by
  unfold ofParts
  split
  · rename_i hparts
    exact hparts.symm
  · rename_i hparts
    exact (Bool.eq_false_iff.mpr hparts).symm

/-- A rounded quotient is the quotient cut off, or one more. -/
theorem roundQuotient_bounds (num den : Nat) :
    num / den ≤ roundQuotient num den ∧ roundQuotient num den ≤ num / den + 1 := by
  unfold roundQuotient
  dsimp only
  split_ifs <;> omega

/-- A quotient cut off at its place has at most 53 bits, and all of them unless the place is the
lowest. -/
theorem placed_bounds (grains : Nat) :
    grains / 2 ^ placeOf grains < 2 ^ 53 ∧
      (placeOf grains = 0 ∨ 2 ^ 52 ≤ grains / 2 ^ placeOf grains) := by
  by_cases hlow : Nat.log2 grains ≤ 52
  · have hplace : placeOf grains = 0 := Nat.sub_eq_zero_of_le hlow
    refine ⟨?_, .inl hplace⟩
    rw [hplace, Nat.pow_zero, Nat.div_one]
    calc grains < 2 ^ (Nat.log2 grains + 1) := Nat.lt_log2_self
      _ ≤ 2 ^ 53 := Nat.pow_le_pow_right (by decide) (by omega)
  · have hplace : Nat.log2 grains = 52 + placeOf grains := by
      unfold placeOf
      omega
    have hne : grains ≠ 0 := by
      rintro rfl
      simp at hlow
    constructor
    · rw [Nat.div_lt_iff_lt_mul (Nat.two_pow_pos _), ← Nat.pow_add]
      calc grains < 2 ^ (Nat.log2 grains + 1) := Nat.lt_log2_self
        _ = 2 ^ (53 + placeOf grains) := by rw [hplace]; ring
    · refine .inr ?_
      rw [Nat.le_div_iff_mul_le (Nat.two_pow_pos _), ← Nat.pow_add, ← hplace]
      exact Nat.log2_self_le hne

/-- Grains of a number of bits have their place 53 bits below. -/
theorem placeOf_le {grains bits : Nat} (h : grains < 2 ^ bits) : placeOf grains ≤ bits - 53 := by
  unfold placeOf
  by_cases hne : grains = 0
  · simp [hne]
  · have := (Nat.log2_lt hne).mpr h
    omega

/-- **What rounding gives.**  A quotient is rounded to a significand at its place, and the place
is the one that leaves 53 bits, or the next one if rounding has carried.  Only the range is left
open: the place may be too high. -/
theorem exists_round_eq (negative : Bool) (num den : Nat) :
    ∃ m p, round negative num den = ofParts negative m p ∧ m < 2 ^ 53 ∧ (p = 0 ∨ 2 ^ 52 ≤ m) ∧
      p ≤ placeOf (num / den) + 1 ∧
      m * 2 ^ p =
        roundQuotient num (den * 2 ^ placeOf (num / den)) * 2 ^ placeOf (num / den) := by
  obtain ⟨hhigh, hfull⟩ := placed_bounds (num / den)
  obtain ⟨hbelow, habove⟩ := roundQuotient_bounds num (den * 2 ^ placeOf (num / den))
  rw [← Nat.div_div_eq_div_mul] at hbelow habove
  unfold round
  simp only [Nat.shiftLeft_eq, Nat.one_mul]
  generalize placeOf (num / den) = place at *
  generalize roundQuotient num (den * 2 ^ place) = significand at *
  by_cases hcarry : significand = 2 ^ 53
  · -- rounded up to a 54th bit, which moves the place
    have hmoved : 2 ^ 52 * 2 ^ (place + 1) = significand * 2 ^ place := by
      rw [hcarry, Nat.pow_succ]
      ring
    exact ⟨2 ^ 52, place + 1, if_pos hcarry, by decide, .inr le_rfl, le_rfl, hmoved⟩
  · have hleast : place = 0 ∨ 2 ^ 52 ≤ significand := hfull.imp_right fun h => h.trans hbelow
    exact ⟨significand, place, if_neg hcarry, by omega, hleast, Nat.le_succ place, rfl⟩

/-- **Rounding stays in the range**: grains of no more than 2097 bits are rounded to a
finite number. -/
theorem isFinite_round {num den bits : Nat} (negative : Bool) (hbits : bits ≤ 2097)
    (h : num / den < 2 ^ bits) : (round negative num den).isFinite = true := by
  have hplace := placeOf_le h
  obtain ⟨m, p, hround, hm, hfull, hp, -⟩ := exists_round_eq negative num den
  rw [hround, isFinite_ofParts, isSignificand_iff]
  exact ⟨hm, by omega, hfull⟩

/-- An integer is within the range if the number that it is rounded to is finite. -/
theorem isSome_ofInt?_eq (n : Int) : (ofInt? n).isSome = (ofInt n).isFinite := by
  unfold ofInt?
  cases (ofInt n).isFinite <;> rfl

/-- An integer of less than 1024 bits is within the range. -/
theorem isSome_ofInt? {n : Int} {bits : Nat} (hbits : bits < 1024) (h : n.natAbs < 2 ^ bits) :
    (ofInt? n).isSome = true := by
  have hgrains : n.natAbs * grainsPerUnit / 1 < 2 ^ (bits + 1074) := by
    rw [Nat.div_one, grainsPerUnit_eq, mul_two_pow_lt_iff]
    exact h
  rw [isSome_ofInt?_eq]
  exact isFinite_round _ (by omega) hgrains

end Intake.Binary64
