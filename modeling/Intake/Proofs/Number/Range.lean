import Intake.Proofs.Number.Nearest

/-!
# The range of integers

An integer is within the range if the number that it is rounded to is finite.  The largest finite
number is `2 ^ 1024 - 2 ^ 971`, and the next one would be `2 ^ 1024`.  The integer half way between
the two has both at the same distance, and of them `2 ^ 1024` is the even one: so the range ends
before the integer half way, `2 ^ 1024 - 2 ^ 970`.

* `nearestMagnitude_lt_iff` says which magnitudes are rounded below a power of two;
* `isFinite_round_iff` says that a number is finite if its rounded grains are few enough;
* `isSome_ofInt?_iff` is the range of integers.
-/

namespace Intake.Binary64

/-- Is the integer in the range of floating-point numbers? -/
def InRange (n : Int) : Prop := n.natAbs < 2 ^ 1024 - 2 ^ 970

/-! ## Rounding below a power of two -/

/-- A rounded magnitude is no less than what is left of it at its place. -/
theorem le_nearestMagnitude {n : Nat} (h : placeOf n ≠ 0) :
    2 ^ (52 + placeOf n) ≤ nearestMagnitude n := by
  obtain ⟨-, hzero | hfull⟩ := placed_bounds n
  · exact absurd hzero h
  · have hkept : 2 ^ 52 ≤ roundQuotient n (2 ^ placeOf n) :=
      hfull.trans (roundQuotient_bounds n (2 ^ placeOf n)).1
    exact (two_pow_le_mul_iff (placeOf n)).mpr hkept

/-- A quotient is rounded to less than an even number exactly if it is less than half a step below
that number. -/
theorem roundQuotient_lt_iff {n half top : Nat} (hhalf : 0 < half) (heven : top % 2 = 0) :
    roundQuotient n (2 * half) < top ↔ n + half < 2 * half * top := by
  have hsplit := Nat.div_add_mod n (2 * half)
  have hrest : n % (2 * half) < 2 * half := Nat.mod_lt n (by omega)
  unfold roundQuotient
  dsimp only
  generalize n / (2 * half) = q at *
  generalize n % (2 * half) = rest at *
  rcases Nat.lt_trichotomy (q + 1) top with hbelow | hlast | habove
  · have hroom : 2 * half * (q + 2) ≤ 2 * half * top := Nat.mul_le_mul_left _ hbelow
    have hnext : 2 * half * (q + 2) = 2 * half * q + 4 * half := by ring
    split_ifs <;> omega
  · -- the last number below: `q` is odd, so a tie goes up
    have hnext : 2 * half * top = 2 * half * q + 2 * half := by rw [← hlast]; ring
    split_ifs <;> omega
  · have hover : 2 * half * top ≤ 2 * half * q := Nat.mul_le_mul_left _ (by omega)
    split_ifs <;> omega

/-- **Rounding below a power of two.**  A magnitude is rounded to 53 bits below a power of two
exactly if it is below that power by more than half a step. -/
theorem nearestMagnitude_lt_iff {n bits : Nat} :
    nearestMagnitude n < 2 ^ (54 + bits) ↔ n + 2 ^ bits < 2 ^ (54 + bits) := by
  have hpow : 2 ^ (54 + bits) = 2 ^ 54 * 2 ^ bits := Nat.pow_add ..
  have hpos : 0 < 2 ^ bits := Nat.two_pow_pos bits
  rcases Nat.lt_trichotomy (placeOf n) (bits + 1) with hlow | hplace | hhigh
  · -- far below: neither the magnitude nor what it is rounded to comes near
    have hshort : n < 2 ^ (53 + bits) := by
      have hlog : Nat.log2 n + 1 ≤ 53 + bits := by
        unfold placeOf at hlow
        omega
      calc n < 2 ^ (Nat.log2 n + 1) := Nat.lt_log2_self
        _ ≤ 2 ^ (53 + bits) := Nat.pow_le_pow_right (by decide) hlog
    have hhalf : 2 ^ (53 + bits) = 2 ^ 53 * 2 ^ bits := Nat.pow_add ..
    have hstep : 2 ^ placeOf n ≤ 2 ^ bits := Nat.pow_le_pow_right (by decide) (by omega)
    have hnear := (nearestMagnitude_bounds n).2
    omega
  · have hstep : 2 ^ placeOf n = 2 * 2 ^ bits := by rw [hplace, Nat.pow_succ, Nat.mul_comm]
    have hsteps : 2 ^ (54 + bits) = 2 ^ 53 * (2 * 2 ^ bits) := by rw [hpow]; ring
    rw [nearestMagnitude, hstep, hsteps, Nat.mul_lt_mul_right (by omega),
      roundQuotient_lt_iff hpos (by decide), Nat.mul_comm (2 * 2 ^ bits)]
  · -- far above: both are at least the power
    have hne : n ≠ 0 := by
      rintro rfl
      simp [placeOf] at hhigh
    have hlong : 2 ^ (54 + bits) ≤ n := by
      have hlog : 54 + bits ≤ Nat.log2 n := by
        unfold placeOf at hhigh
        omega
      exact (Nat.pow_le_pow_right (by decide) hlog).trans (Nat.log2_self_le hne)
    have hover : 2 ^ (54 + bits) ≤ nearestMagnitude n := by
      refine le_trans (Nat.pow_le_pow_right (by decide) ?_) (le_nearestMagnitude (by omega))
      omega
    omega

/-! ## Finite numbers -/

/-- Some grains are rounded to a finite number exactly if, rounded to 53 bits, they have no more
than 2098. -/
theorem isFinite_round_iff {negative : Bool} {grains : Nat} :
    (round negative grains 1).isFinite = true ↔ nearestMagnitude grains < 2 ^ (53 + 2045) := by
  have hraise : ∀ {a b : Nat}, a ≤ b → 2 ^ a ≤ 2 ^ b := Nat.pow_le_pow_right (by decide)
  obtain ⟨m, p, hround, hm, hfull, -, hvalue⟩ := exists_round_eq negative grains 1
  rw [Nat.div_one, Nat.one_mul] at hvalue
  have hrounded : nearestMagnitude grains = m * 2 ^ p := hvalue.symm
  rw [hround, isFinite_ofParts, isSignificand_iff, hrounded]
  constructor
  · rintro ⟨-, hp, -⟩
    have hless : m * 2 ^ p < 2 ^ (53 + p) := (mul_two_pow_lt_iff p).mpr hm
    exact lt_of_lt_of_le hless (hraise (Nat.add_le_add_left hp 53))
  · intro hrange
    refine ⟨hm, ?_, hfull⟩
    rcases hfull with hzero | hbits
    · omega
    · have hleast : 2 ^ (52 + p) ≤ m * 2 ^ p := (two_pow_le_mul_iff p).mpr hbits
      have hplace := (Nat.pow_lt_pow_iff_right (by decide)).mp (lt_of_le_of_lt hleast hrange)
      omega

/-! ## Integers -/

/-- **The range of integers.**  An integer has a number exactly if it is nearer to zero than
`2 ^ 1024 - 2 ^ 970`. -/
theorem isSome_ofInt?_iff {n : Int} : (ofInt? n).isSome = true ↔ InRange n := by
  have hgrains : 53 + 2045 = 54 + 970 + 1074 := rfl
  have hones : 54 + 970 = 1024 := rfl
  rw [isSome_ofInt?_eq, ofInt, isFinite_round_iff, grainsPerUnit_eq,
    nearestMagnitude_mul_pow _ (by decide), hgrains, mul_two_pow_lt_iff, nearestMagnitude_lt_iff,
    hones, InRange]
  exact Nat.lt_sub_iff_add_lt.symm

end Intake.Binary64
