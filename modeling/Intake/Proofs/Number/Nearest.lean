import Intake.Proofs.Number.Binary64
import Mathlib.Data.Nat.Log

/-!
# The number nearest to an integer

An integer of at most 53 bits is a floating-point number itself.  A longer one is rounded to 53
bits, and what it is rounded to is an integer again: `nearest`.  So the order of a rounded integer
and another integer is the order of two integers, and grains have no part in it.

* `nearestMagnitude_mul_pow` says that it does not matter whether one rounds ones or grains: what is
  counted in a finer unit has its place as much higher;
* `compareInt?_of_ofInt?` is the order of a rounded integer and an integer;
* `nearest_of_natAbs_le` says that integers up to `2 ^ 53` are not changed, and
  `two_mul_natAbs_sub_nearest_le` how far others are.
-/

namespace Intake.Binary64

/-! ## Rounding to 53 bits -/

/-- A magnitude rounded to 53 bits, a tie to the even one. -/
def nearestMagnitude (n : Nat) : Nat := roundQuotient n (2 ^ placeOf n) * 2 ^ placeOf n

/-- An integer rounded to 53 bits, a tie to the even one. -/
def nearest (n : Int) : Int :=
  if n < 0 then -(nearestMagnitude n.natAbs : Int) else nearestMagnitude n.natAbs

/-- A quotient is rounded alike in any unit. -/
theorem roundQuotient_mul_mul (num den : Nat) {unit : Nat} (hunit : 0 < unit) :
    roundQuotient (num * unit) (den * unit) = roundQuotient num den := by
  have hless : ∀ a b : Nat, a * unit < b * unit ↔ a < b :=
    fun a b => Nat.mul_lt_mul_right hunit
  unfold roundQuotient
  simp only [Nat.mul_div_mul_right num den hunit, Nat.mul_mod_mul_right, ← Nat.mul_assoc, hless]

/-- A whole quotient is not rounded. -/
theorem roundQuotient_mul_self (n : Nat) {den : Nat} (hden : 0 < den) :
    roundQuotient (n * den) den = n := by
  unfold roundQuotient
  rw [Nat.mul_div_cancel n hden, Nat.mul_mod_left, if_pos (by omega)]

/-- A magnitude that is whole at its place is not rounded. -/
theorem nearestMagnitude_of_dvd {n : Nat} (h : 2 ^ placeOf n ∣ n) : nearestMagnitude n = n := by
  obtain ⟨m, hm⟩ := h
  have hquotient : roundQuotient n (2 ^ placeOf n) = m := by
    have := roundQuotient_mul_self m (Nat.two_pow_pos (placeOf n))
    rwa [Nat.mul_comm, ← hm] at this
  rw [nearestMagnitude, hquotient, Nat.mul_comm, ← hm]

/-- A rounded magnitude is at most half a step of its place away. -/
theorem nearestMagnitude_bounds (n : Nat) :
    2 * n ≤ 2 * nearestMagnitude n + 2 ^ placeOf n ∧
      2 * nearestMagnitude n ≤ 2 * n + 2 ^ placeOf n := by
  have hsplit := Nat.div_add_mod n (2 ^ placeOf n)
  have hrest := Nat.mod_lt n (Nat.two_pow_pos (placeOf n))
  have hcut : ∀ q : Nat, q * 2 ^ placeOf n = 2 ^ placeOf n * q := fun q => Nat.mul_comm ..
  unfold nearestMagnitude roundQuotient
  dsimp only
  generalize 2 ^ placeOf n = step at *
  generalize n / step = q at *
  generalize n % step = rest at *
  have hnext : (q + 1) * step = step * q + step := by rw [hcut, Nat.mul_succ]
  have hsame : q * step = step * q := hcut q
  split_ifs <;> omega

/-! ## Finer units -/

/-- A magnitude counted in a unit finer by a power of two is longer by that power. -/
theorem log2_mul_pow {n : Nat} (hn : n ≠ 0) (fine : Nat) :
    Nat.log2 (n * 2 ^ fine) = Nat.log2 n + fine := by
  have hne : n * 2 ^ fine ≠ 0 := Nat.mul_ne_zero hn (Nat.two_pow_pos fine).ne'
  refine (Nat.log2_eq_iff hne).mpr ⟨?_, ?_⟩
  · exact (two_pow_le_mul_iff fine).mpr (Nat.log2_self_le hn)
  · rw [Nat.add_right_comm]
    exact (mul_two_pow_lt_iff fine).mpr Nat.lt_log2_self

/-- **Rounding does not depend on the unit.**  A magnitude counted in a unit finer by 52 bits or
more is rounded to what it is rounded to when it is counted in ones. -/
theorem nearestMagnitude_mul_pow (n : Nat) {fine : Nat} (hfine : 52 ≤ fine) :
    nearestMagnitude (n * 2 ^ fine) = nearestMagnitude n * 2 ^ fine := by
  by_cases hzero : n = 0
  · subst hzero
    have hnone : nearestMagnitude 0 = 0 := rfl
    rw [Nat.zero_mul, hnone, Nat.zero_mul]
  have hlog := log2_mul_pow hzero fine
  by_cases hlong : 52 ≤ Nat.log2 n
  · have hplace : placeOf (n * 2 ^ fine) = placeOf n + fine := by
      unfold placeOf
      omega
    rw [nearestMagnitude, nearestMagnitude, hplace, Nat.pow_add,
      roundQuotient_mul_mul _ _ (Nat.two_pow_pos fine), Nat.mul_assoc]
  · -- a short magnitude is whole at either place, so nothing is rounded
    have hplace : placeOf n = 0 := by
      unfold placeOf
      omega
    have hbelow : placeOf (n * 2 ^ fine) ≤ fine := by
      unfold placeOf
      omega
    rw [nearestMagnitude_of_dvd ((Nat.pow_dvd_pow 2 hbelow).mul_left n),
      nearestMagnitude_of_dvd (by rw [hplace, Nat.pow_zero]; exact Nat.one_dvd n)]

/-! ## The number of an integer -/

/-- A finite number that some grains are rounded to has those grains rounded to 53 bits. -/
theorem exists_of_isFinite_round {negative : Bool} {grains : Nat}
    (h : (round negative grains 1).isFinite = true) :
    ∃ m p normal, round negative grains 1 = .finite negative m p normal ∧
      m <<< p = nearestMagnitude grains := by
  obtain ⟨m, p, hround, -, -, -, hvalue⟩ := exists_round_eq negative grains 1
  rw [Nat.div_one, Nat.one_mul] at hvalue
  rw [hround, isFinite_ofParts] at h
  exact ⟨m, p, h, hround.trans (dif_pos h), (Nat.shiftLeft_eq m p).trans hvalue⟩

/-- Which power of two counts the grains of a unit does not matter where a unit only has to be fine
enough. -/
theorem exists_grainsPerUnit_eq : ∃ fine, 52 ≤ fine ∧ grainsPerUnit = 2 ^ fine :=
  ⟨1074, by decide, grainsPerUnit_eq⟩

/-- Whole numbers are ordered alike in any unit. -/
theorem compare_mul_unit (a b : Int) {unit : Nat} (hunit : 0 < unit) :
    compare (a * (unit : Int)) (b * (unit : Int)) = compare a b := by
  have hpos : (0 : Int) < unit := by exact_mod_cast hunit
  rcases lt_trichotomy a b with hlt | rfl | hgt
  · rw [compare_lt_iff_lt.mpr hlt, compare_lt_iff_lt.mpr (Int.mul_lt_mul_of_pos_right hlt hpos)]
  · rw [compare_eq_iff_eq.mpr rfl, compare_eq_iff_eq.mpr rfl]
  · rw [compare_gt_iff_gt.mpr hgt, compare_gt_iff_gt.mpr (Int.mul_lt_mul_of_pos_right hgt hpos)]

/-- The number of an integer within the range is the one it is rounded to. -/
theorem ofInt?_eq_some_iff {n : Int} {x : Binary64} :
    ofInt? n = some x ↔ (ofInt n).isFinite = true ∧ ofInt n = x := by
  unfold ofInt?
  split
  · rename_i hfinite
    simp [hfinite]
  · rename_i hbeyond
    simp [hbeyond]

/-- The number of an integer within the range is finite. -/
theorem isFinite_of_ofInt? {n : Int} {x : Binary64} (h : ofInt? n = some x) :
    x.isFinite = true := by
  obtain ⟨hfinite, rfl⟩ := ofInt?_eq_some_iff.mp h
  exact hfinite

/-- The number of an integer is the one that it is rounded to, if that is finite. -/
theorem ofInt?_eq_filter (n : Int) : ofInt? n = (some (ofInt n)).filter isFinite := by
  rw [ofInt?, Option.filter]

/-- Zero is the number of zero. -/
theorem ofInt?_zero : ofInt? 0 = some zero := by
  have hnone : ofInt 0 = zero := by
    rw [ofInt, Int.natAbs_zero, Nat.zero_mul]
    rfl
  rw [ofInt?, hnone]
  rfl

/-- A finite number is equal to itself. -/
theorem eqv_self {x : Binary64} (h : x.isFinite = true) : x.eqv x = true := by
  cases x with
  | finite negative m p normal => simp [eqv, compare?]
  | _ => cases h

/-- **The order of a rounded integer.**  An integer within the range is ordered against another as
that one is to which it is rounded. -/
theorem compareInt?_of_ofInt? {n : Int} {x : Binary64} (h : ofInt? n = some x) (bound : Int) :
    x.compareInt? bound = some (compare (nearest n) bound) := by
  obtain ⟨hfinite, rfl⟩ := ofInt?_eq_some_iff.mp h
  obtain ⟨m, p, normal, hx, hvalue⟩ := exists_of_isFinite_round hfinite
  obtain ⟨unit, hunit, hgrains, hmagnitude⟩ : ∃ unit : Nat, 0 < unit ∧
      grainsPerUnit = unit ∧ m <<< p = nearestMagnitude n.natAbs * unit := by
    obtain ⟨fine, hfine, hgrains⟩ := exists_grainsPerUnit_eq
    refine ⟨2 ^ fine, Nat.two_pow_pos fine, hgrains, ?_⟩
    rw [hvalue, hgrains, nearestMagnitude_mul_pow _ hfine]
  rw [ofInt, hx]
  unfold compareInt? nearest
  dsimp only
  rw [hmagnitude, hgrains, ← compare_mul_unit _ bound hunit]
  by_cases hneg : n < 0
  · simp [hneg]
  · simp [hneg]

/-- An integer up to `2 ^ 53` is not changed. -/
theorem nearest_of_natAbs_le {n : Int} (h : n.natAbs ≤ 2 ^ 53) : nearest n = n := by
  have hwhole : 2 ^ placeOf n.natAbs ∣ n.natAbs := by
    rcases Nat.lt_or_eq_of_le h with hshort | hlast
    · have hplace : placeOf n.natAbs = 0 := by
        have := placeOf_le hshort
        omega
      rw [hplace, Nat.pow_zero]
      exact Nat.one_dvd _
    · rw [hlast]
      decide
  unfold nearest
  rw [nearestMagnitude_of_dvd hwhole]
  split_ifs <;> omega

/-- An integer is rounded to one at most half a step of its place away. -/
theorem two_mul_natAbs_sub_nearest_le (n : Int) :
    2 * (nearest n - n).natAbs ≤ 2 ^ placeOf n.natAbs := by
  obtain ⟨hlow, hhigh⟩ := nearestMagnitude_bounds n.natAbs
  unfold nearest
  generalize 2 ^ placeOf n.natAbs = step at *
  generalize nearestMagnitude n.natAbs = m at *
  split_ifs <;> omega

end Intake.Binary64
