import Intake.Proofs.Number.Binary64
import Intake.Proofs.Number.DecimalText
import Mathlib.Tactic.Linarith
import Mathlib.Tactic.Positivity

/-!
# No two numbers have one text

The reals that round to a floating-point number form an interval about it, and the intervals of
two numbers do not meet: where they touch, the end belongs to at most one of them.  The shortest
decimal of a number lies in its interval, for decimals of seventeen digits stand closer than
the interval is wide.  So the text of a number tells which it is.

* `Interval.Holds` is the interval as a set of rationals, in quarter grains;
* `decimalOfLength?_seventeen` says that a decimal of seventeen digits is always found in it, and
  `shortest_holds` that the shortest decimal lies in it;
* `eq_of_holds` says that two intervals do not meet;
* `finite_inj_of_text` is the conclusion.
-/

namespace Intake.Binary64

/-- Is the rational in the interval? -/
def Interval.Holds (i : Interval) (q : ℚ) : Prop :=
  if i.closed then (i.low : ℚ) ≤ q ∧ q ≤ i.high else (i.low : ℚ) < q ∧ q < i.high

/-- The test for a quotient is that for the rational. -/
theorem Interval.holds_iff {i : Interval} {num den : Nat} (hden : 0 < den) :
    i.holds num den = true ↔ i.Holds ((num : ℚ) / den) := by
  have hpos : (0 : ℚ) < den := by exact_mod_cast hden
  unfold holds Holds
  cases i.closed with
  | true =>
    simp only [if_true, Bool.and_eq_true, decide_eq_true_eq, le_div_iff₀ hpos, div_le_iff₀ hpos]
    norm_cast
  | false =>
    simp only [Bool.false_eq_true, if_false, Bool.and_eq_true, decide_eq_true_eq, lt_div_iff₀ hpos,
      div_lt_iff₀ hpos]
    norm_cast

/-- What is strictly between the ends is in the interval. -/
theorem Interval.holds_of_lt {i : Interval} {q : ℚ} (hlow : (i.low : ℚ) < q) (hhigh : q < i.high) :
    i.Holds q := by
  unfold Holds
  split
  · exact ⟨hlow.le, hhigh.le⟩
  · exact ⟨hlow, hhigh⟩

/-- What is in the interval is not beyond its ends. -/
theorem Interval.Holds.bounds {i : Interval} {q : ℚ} (h : i.Holds q) :
    (i.low : ℚ) ≤ q ∧ q ≤ i.high := by
  unfold Holds at h
  split at h
  · exact h
  · exact ⟨h.1.le, h.2.le⟩

/-- Where of two rationals about the value neither is in the interval, it is no wider than they are
apart. -/
theorem Interval.width_le {i : Interval} (hbelow : i.low ≤ i.value) (habove : i.value < i.high)
    {p q : ℚ} (hp : p ≤ i.value) (hq : i.value < q) (hnotp : ¬ i.Holds p) (hnotq : ¬ i.Holds q) :
    (i.high : ℚ) - i.low ≤ q - p := by
  have hbelowq : (i.low : ℚ) ≤ i.value := by exact_mod_cast hbelow
  have haboveq : (i.value : ℚ) < i.high := by exact_mod_cast habove
  have hlow : p ≤ i.low := not_lt.mp fun hlt => hnotp (holds_of_lt hlt (hp.trans_lt haboveq))
  have hhigh : (i.high : ℚ) ≤ q :=
    not_lt.mp fun hlt => hnotq (holds_of_lt (hbelowq.trans_lt hq) hlt)
  linarith

/-- A number lies between two neighbours among the multiples of a step. -/
theorem floor_step_bounds (value : Nat) {num den : Nat} (hnum : 0 < num) (hden : 0 < den) :
    ((value * den / num : Nat) : ℚ) * (num / den) ≤ value ∧
      (value : ℚ) < ((value * den / num + 1 : Nat) : ℚ) * (num / den) := by
  have hdenq : (0 : ℚ) < den := by exact_mod_cast hden
  constructor
  · rw [← mul_div_assoc, div_le_iff₀ hdenq]
    exact_mod_cast Nat.div_mul_le_self (value * den) num
  · rw [← mul_div_assoc, lt_div_iff₀ hdenq]
    exact_mod_cast Nat.lt_mul_of_div_lt (Nat.lt_succ_self _) hnum

/-- The number of quarter grains in one. -/
def quartersPerUnit : ℚ := ((4 * grainsPerUnit : Nat) : ℚ)

/-- The quotient of two powers of ten, of which one is one. -/
theorem ten_pow_quotient {last : Int} {up down : Nat}
    (h : (if 0 ≤ last then (Nat.pow 10 last.toNat, 1) else (1, Nat.pow 10 last.natAbs)) =
      (up, down)) : 0 < up ∧ 0 < down ∧ (up : ℚ) / down = 10 ^ last := by
  split at h
  · rename_i hpos
    cases h
    refine ⟨Nat.pow_pos (by decide), Nat.one_pos, ?_⟩
    have hlast : last = (last.toNat : Int) := by omega
    rw [hlast, zpow_natCast, Int.toNat_natCast]
    show ((10 ^ last.toNat : Nat) : ℚ) / ((1 : Nat) : ℚ) = 10 ^ last.toNat
    push_cast
    rw [div_one]
  · rename_i hneg
    cases h
    refine ⟨Nat.one_pos, Nat.pow_pos (by decide), ?_⟩
    have hlast : last = -(last.natAbs : Int) := by omega
    rw [hlast, zpow_neg, zpow_natCast, Int.natAbs_neg, Int.natAbs_natCast]
    show ((1 : Nat) : ℚ) / ((10 ^ last.natAbs : Nat) : ℚ) = _
    push_cast
    rw [one_div]

/-- **A decimal of some length** lies in the interval if it is found, and none is found only if
the interval is no wider than such decimals are apart. -/
theorem decimalOfLength?_spec (i : Interval) (hbelow : i.low ≤ i.value) (habove : i.value < i.high)
    (top : Int) (count : Nat) :
    match decimalOfLength? i top count with
    | some (digits, exponent) => i.Holds (digits * 10 ^ exponent * quartersPerUnit)
    | none => (i.high : ℚ) - i.low ≤ 10 ^ (top - count + 1) * quartersPerUnit := by
  unfold decimalOfLength?
  generalize hlast : top - (count : Int) + 1 = last
  dsimp only
  generalize hpair : (if 0 ≤ last then (Nat.pow 10 last.toNat, 1)
    else (1, Nat.pow 10 last.natAbs)) = pair
  obtain ⟨up, down⟩ := pair
  obtain ⟨hup, hdown, hquotient⟩ := ten_pow_quotient hpair
  dsimp only
  have hunitPos : 0 < 4 * grainsPerUnit := by
    rw [grainsPerUnit, Nat.shiftLeft_eq]
    positivity
  have hunit : ((4 * grainsPerUnit : Nat) : ℚ) = quartersPerUnit := rfl
  generalize 4 * grainsPerUnit = unit at hunit hunitPos ⊢
  have hstep : (10 : ℚ) ^ last * quartersPerUnit = (unit * up : Nat) / down := by
    rw [← hquotient, ← hunit]
    push_cast
    ring
  have hfits : ∀ d : Nat, i.holds (d * up * unit) down = true ↔
      i.Holds (d * 10 ^ last * quartersPerUnit) := by
    intro d
    rw [Interval.holds_iff hdown, mul_assoc (d : ℚ), hstep]
    push_cast
    rw [show (d : ℚ) * (unit * up / down) = d * up * unit / down by ring]
  obtain ⟨hfloor, hceil⟩ := floor_step_bounds i.value (Nat.mul_pos hunitPos hup) hdown
  generalize i.value * down / (unit * up) = floor at *
  cases hlow : i.holds (floor * up * unit) down <;>
    cases hhigh : i.holds ((floor + 1) * up * unit) down <;> dsimp only
  · -- the decimals on both sides of the value are no closer to it than the ends
    have hnotLow := mt (hfits floor).mpr (by simp [hlow])
    have hnotHigh := mt (hfits (floor + 1)).mpr (by simp [hhigh])
    rw [mul_assoc, hstep] at hnotLow hnotHigh
    rw [hstep]
    refine (Interval.width_le hbelow habove hfloor hceil hnotLow hnotHigh).trans_eq ?_
    push_cast
    ring
  · exact_mod_cast (hfits _).mp hhigh
  · exact (hfits _).mp hlow
  · split
    · exact (hfits _).mp hlow
    · exact_mod_cast (hfits _).mp hhigh

/-- Zeros at the end go from the digits into the exponent. -/
theorem trimZeros_value (fuel digits : Nat) (exponent : Int) :
    ((trimZeros fuel digits exponent).1 : ℚ) * 10 ^ (trimZeros fuel digits exponent).2 =
      digits * 10 ^ exponent := by
  induction fuel generalizing digits exponent with
  | zero => rfl
  | succ fuel ih =>
    unfold trimZeros
    split
    · rename_i hzero
      have hdigits : digits = digits / 10 * 10 := by omega
      rw [ih, zpow_add_one₀ (by norm_num)]
      conv_rhs => rw [hdigits]
      push_cast
      ring
    · rfl

/-- A positive quotient is at least the power of ten of its exponent. -/
theorem ten_pow_decimalExponent_le {num den : Nat} (hnum : 0 < num) (hden : 0 < den) :
    (10 : ℚ) ^ decimalExponent num den ≤ num / den := by
  have hnumq : (0 : ℚ) < num := by exact_mod_cast hnum
  have hdenq : (0 : ℚ) < den := by exact_mod_cast hden
  unfold decimalExponent
  split
  · rename_i hle
    have hpos := Nat.div_pos hle hden
    -- as many digits as the quotient has, less one, are the zeros of a power below it
    have hpow : 10 ^ (digitCount (num / den) - 1) ≤ num / den := by
      rcases Nat.eq_zero_or_pos (digitCount (num / den) - 1) with hone | hmore
      · rw [hone]
        exact hpos
      · refine not_lt.mp fun hlt => ?_
        have := (Nat.length_toDigits_le_iff (by decide) hmore).mpr hlt
        unfold digitCount at this hmore
        omega
    have hcount : 0 < digitCount (num / den) := Nat.length_toDigits_pos
    have hexponent : ((digitCount (num / den) : Int) - 1) = (digitCount (num / den) - 1 : Nat) := by
      omega
    rw [hexponent, zpow_natCast, le_div_iff₀ hdenq]
    exact_mod_cast (Nat.le_div_iff_mul_le hden).mp hpow
  · rename_i hlt
    dsimp only
    split
    · rename_i hle
      rw [zpow_neg, zpow_natCast, inv_le_iff_one_le_mul₀ (by positivity), div_mul_eq_mul_div,
        le_div_iff₀ hdenq, one_mul]
      exact_mod_cast hle
    · have hcount : 0 < digitCount (den / num) := Nat.length_toDigits_pos
      have hpow : den / num < 10 ^ digitCount (den / num) :=
        (Nat.length_toDigits_le_iff (by decide) hcount).mp le_rfl
      have hexponent : ((digitCount (den / num) - 1 : Nat) : Int) + 1 =
          (digitCount (den / num) : Nat) := by
        omega
      rw [hexponent, zpow_neg, zpow_natCast, inv_le_iff_one_le_mul₀ (by positivity),
        div_mul_eq_mul_div, le_div_iff₀ hdenq, one_mul]
      have := (Nat.div_lt_iff_lt_mul hnum).mp hpow
      rw [mul_comm]
      exact_mod_cast this.le

/-- The interval of a number as rationals: its ends are a quarter or half a step below the
number, and half a step above it. -/
theorem interval_bounds (significand place : Nat) :
    ∃ below : Nat, (below = 1 ∧ significand = 2 ^ 52 ∧ 0 < place ∨
        below = 2 ∧ (significand ≠ 2 ^ 52 ∨ place = 0)) ∧
      (interval significand place).low = (4 * significand - below) * 2 ^ place ∧
      (interval significand place).value = 4 * significand * 2 ^ place ∧
      (interval significand place).high = (4 * significand + 2) * 2 ^ place ∧
      (interval significand place).closed = decide (significand % 2 = 0) := by
  refine ⟨if significand = 1 <<< 52 ∧ 0 < place then 1 else 2, ?_, ?_, ?_, ?_, rfl⟩
  · split
    · rename_i h
      exact .inl ⟨rfl, by rw [h.1]; rfl, h.2⟩
    · rename_i h
      refine .inr ⟨rfl, ?_⟩
      rw [Nat.one_shiftLeft] at h
      omega
  · simp only [interval, Nat.shiftLeft_eq]
    split
    · rw [Nat.sub_mul]
      ring_nf
    · rw [Nat.sub_mul]
      ring_nf
  · simp only [interval, Nat.shiftLeft_eq]
    ring
  · simp only [interval, Nat.shiftLeft_eq]
    ring

/-- The value of the interval of a number is between its ends. -/
theorem interval_value_between (significand place : Nat) :
    (interval significand place).low ≤ (interval significand place).value ∧
      (interval significand place).value < (interval significand place).high := by
  obtain ⟨below, -, hlow, hvalue, hhigh, -⟩ := interval_bounds significand place
  rw [hlow, hvalue, hhigh]
  exact ⟨Nat.mul_le_mul_right _ (Nat.sub_le ..),
    Nat.mul_lt_mul_of_pos_right (by omega) (Nat.two_pow_pos place)⟩

/-- The first digit of a number does not stand above it. -/
theorem ten_pow_top_le_value {significand : Nat} (hpos : 0 < significand) (place : Nat) :
    (10 : ℚ) ^ decimalExponent (significand <<< place) grainsPerUnit * quartersPerUnit ≤
      (interval significand place).value := by
  obtain ⟨-, -, -, hvalue, -, -⟩ := interval_bounds significand place
  have hunit : 0 < grainsPerUnit := by
    rw [grainsPerUnit, Nat.shiftLeft_eq]
    positivity
  have hunitq : (0 : ℚ) < grainsPerUnit := by exact_mod_cast hunit
  have hgrains : 0 < significand <<< place := by
    rw [Nat.shiftLeft_eq]
    positivity
  have hscaled := (le_div_iff₀ hunitq).mp (ten_pow_decimalExponent_le hgrains hunit)
  have hcast : ((significand <<< place : Nat) : ℚ) = significand * 2 ^ place := by
    rw [Nat.shiftLeft_eq]
    push_cast
    rfl
  rw [hcast] at hscaled
  rw [hvalue, quartersPerUnit]
  push_cast
  linarith

/-- **Seventeen digits are enough**: decimals of so many digits stand closer than the interval of a
number is wide. -/
theorem decimalOfLength?_seventeen {significand place : Nat} (hpos : 0 < significand)
    (hbits : significand < 2 ^ 53) {top : Int}
    (htop : (10 : ℚ) ^ top * quartersPerUnit ≤ (interval significand place).value) :
    decimalOfLength? (interval significand place) top 17 ≠ none := by
  intro hnone
  obtain ⟨below, hbelow, hlow, hvalue, hhigh, -⟩ := interval_bounds significand place
  obtain ⟨hvalueLow, hvalueHigh⟩ := interval_value_between significand place
  have hspec := decimalOfLength?_spec _ hvalueLow hvalueHigh top 17
  rw [hnone] at hspec
  have hexponent : top - ((17 : Nat) : Int) + 1 = top - 16 := by omega
  have hten : (10 : ℚ) ^ (16 : Int) = 10 ^ 16 := by norm_num
  dsimp only at hspec
  rw [hexponent, zpow_sub₀ (by norm_num), hten, hhigh, hlow] at hspec
  rw [hvalue] at htop
  have hbelowLe : below ≤ 4 * significand := by omega
  push_cast [Nat.cast_sub hbelowLe] at hspec htop
  have hwidth : (2 + below : ℚ) * 10 ^ 16 * 2 ^ place ≤ 4 * significand * 2 ^ place := by
    linarith
  have hdigits : (2 + below) * 10 ^ 16 ≤ 4 * significand := by
    exact_mod_cast le_of_mul_le_mul_right hwidth (by positivity)
  omega

/-- **The shortest decimal lies in the interval** of the number that it is written for. -/
theorem shortest_holds {significand place : Nat} (hpos : 0 < significand)
    (hbits : significand < 2 ^ 53) :
    (interval significand place).Holds ((shortest significand place).1 *
      10 ^ (shortest significand place).2 * quartersPerUnit) := by
  obtain ⟨hlow, hhigh⟩ := interval_value_between significand place
  have htop := ten_pow_top_le_value hpos place
  unfold shortest
  dsimp only
  generalize decimalExponent (significand <<< place) grainsPerUnit = top at htop ⊢
  cases hfind : (List.range 17).findSome? fun k =>
      decimalOfLength? (interval significand place) top (k + 1) with
  | some found =>
    obtain ⟨k, -, hk⟩ := List.exists_of_findSome?_eq_some hfind
    have hspec := decimalOfLength?_spec _ hlow hhigh top (k + 1)
    rw [hk] at hspec
    dsimp only
    rw [trimZeros_value]
    exact hspec
  | none =>
    have hlast := List.findSome?_eq_none_iff.mp hfind 16 (by simp)
    exact absurd hlast (decimalOfLength?_seventeen hpos hbits htop)

/-- **Intervals do not overlap.**  The interval of a number ends where that of a greater one
begins, or before; and where they touch, one of the significands is odd. -/
theorem high_le_low {m p n r : Nat} (hm : isSignificand m p = true)
    (hn : isSignificand n r = true) (hless : p < r ∨ p = r ∧ m < n) :
    (interval m p).high ≤ (interval n r).low ∧
      ((interval m p).high = (interval n r).low → m % 2 = 1 ∨ n % 2 = 1) := by
  obtain ⟨-, -, -, -, hhigh, -⟩ := interval_bounds m p
  obtain ⟨below, hbelow, hlow, -, -, -⟩ := interval_bounds n r
  obtain ⟨hmBits, -, -⟩ := isSignificand_iff.mp hm
  obtain ⟨-, -, hnFull⟩ := isSignificand_iff.mp hn
  have hstep : 0 < 2 ^ p := Nat.two_pow_pos p
  rw [hhigh, hlow]
  rcases hless with hplace | ⟨rfl, hless⟩
  · -- one place further up every step is at least twice as long
    obtain ⟨d, rfl⟩ : ∃ d, r = p + 1 + d := ⟨r - p - 1, by omega⟩
    have hgrow : (4 * n - below) * 2 * 2 ^ p ≤ (4 * n - below) * 2 ^ (p + 1 + d) := by
      rw [mul_assoc, pow_add, pow_succ, mul_comm 2]
      exact Nat.mul_le_mul_left _ (Nat.le_mul_of_pos_right _ (Nat.two_pow_pos d))
    have hends : 4 * m + 2 ≤ (4 * n - below) * 2 := by omega
    have hscaled := Nat.mul_le_mul_right (2 ^ p) hends
    refine ⟨hscaled.trans hgrow, fun heq => ?_⟩
    have htouch : 4 * m + 2 = (4 * n - below) * 2 :=
      Nat.eq_of_mul_eq_mul_right hstep (le_antisymm hscaled (by rw [heq]; exact hgrow))
    omega
  · refine ⟨Nat.mul_le_mul_right _ (by omega), fun heq => ?_⟩
    have htouch := Nat.eq_of_mul_eq_mul_right hstep heq
    omega

/-- No rational is in the interval of a number and in that of a greater one. -/
theorem not_holds_of_lt {m p n r : Nat} (hm : isSignificand m p = true)
    (hn : isSignificand n r = true) (hless : p < r ∨ p = r ∧ m < n) {q : ℚ}
    (hfirst : (interval m p).Holds q) : ¬ (interval n r).Holds q := by
  intro hsecond
  obtain ⟨hle, htouch⟩ := high_le_low hm hn hless
  have hleq : ((interval m p).high : ℚ) ≤ (interval n r).low := by exact_mod_cast hle
  have hhigh : q = (interval m p).high :=
    le_antisymm hfirst.bounds.2 (hleq.trans hsecond.bounds.1)
  have hlow : q = (interval n r).low := le_antisymm (hfirst.bounds.2.trans hleq) hsecond.bounds.1
  have hends : (interval m p).high = (interval n r).low := by exact_mod_cast hhigh ▸ hlow
  -- an end belongs to the interval of an even significand only
  obtain ⟨-, -, -, -, -, hmClosed⟩ := interval_bounds m p
  obtain ⟨-, -, -, -, -, hnClosed⟩ := interval_bounds n r
  rcases htouch hends with hodd | hodd
  · rw [Interval.Holds, hmClosed, if_neg (by simp [hodd])] at hfirst
    exact absurd hhigh hfirst.2.ne
  · rw [Interval.Holds, hnClosed, if_neg (by simp [hodd])] at hsecond
    exact absurd hlow hsecond.1.ne'

/-- Two numbers whose intervals share a rational are the same. -/
theorem eq_of_holds {m p n r : Nat} (hm : isSignificand m p = true)
    (hn : isSignificand n r = true) {q : ℚ} (hfirst : (interval m p).Holds q)
    (hsecond : (interval n r).Holds q) : m = n ∧ p = r := by
  rcases lt_trichotomy p r with hplace | rfl | hplace
  · exact absurd hsecond (not_holds_of_lt hm hn (.inl hplace) hfirst)
  · rcases lt_trichotomy m n with hless | rfl | hless
    · exact absurd hsecond (not_holds_of_lt hm hn (.inr ⟨rfl, hless⟩) hfirst)
    · exact ⟨rfl, rfl⟩
    · exact absurd hfirst (not_holds_of_lt hn hm (.inr ⟨rfl, hless⟩) hsecond)
  · exact absurd hfirst (not_holds_of_lt hn hm (.inl hplace) hsecond)

/-- The text of a finite number is its sign and a decimal, which is zero for a zero and lies in
the interval of any other number. -/
theorem text_finite (negative : Bool) {m p : Nat} (h : isSignificand m p = true) :
    ∃ digits exponent,
      (finite negative m p h).text = (if negative then "-" else "") ++ decimalText digits exponent ∧
      (m = 0 ∧ digits = 0 ∨
        0 < m ∧ (interval m p).Holds (digits * 10 ^ exponent * quartersPerUnit)) := by
  by_cases hzero : m = 0
  · refine ⟨0, 0, ?_, .inl ⟨hzero, rfl⟩⟩
    rw [text, if_pos hzero]
    rfl
  · refine ⟨(shortest m p).1, (shortest m p).2, ?_, .inr ⟨Nat.pos_of_ne_zero hzero, ?_⟩⟩
    · rw [text, if_neg hzero]
    · exact shortest_holds (Nat.pos_of_ne_zero hzero) (isSignificand_iff.mp h).1

/-- Zero is in the interval of no number but zero. -/
theorem not_holds_zero {m p : Nat} (hpos : 0 < m) : ¬ (interval m p).Holds 0 := by
  intro hzero
  obtain ⟨below, hbelow, hlow, -, -, -⟩ := interval_bounds m p
  have hle : (interval m p).low = 0 := by exact_mod_cast le_antisymm hzero.bounds.1 (by positivity)
  rw [hlow] at hle
  rcases Nat.mul_eq_zero.mp hle with hnone | hnone
  · omega
  · exact absurd hnone (Nat.two_pow_pos p).ne'

/-- **The text of a number tells which it is.** -/
theorem finite_inj_of_text {a b : Bool} {m p n r : Nat} {hm : isSignificand m p = true}
    {hn : isSignificand n r = true} (h : (finite a m p hm).text = (finite b n r hn).text) :
    finite a m p hm = finite b n r hn := by
  obtain ⟨d, e, hfirst, hd⟩ := text_finite a hm
  obtain ⟨d', e', hsecond, hd'⟩ := text_finite b hn
  rw [hfirst, hsecond] at h
  have hchars := congrArg String.toList h
  rw [String.toList_append, String.toList_append] at hchars
  -- the sign is told by the first character, as a decimal starts with a digit
  have hsign : ∀ {d e d' e'}, (decimalText d e).toList ≠
      '-' :: (decimalText d' e').toList := by
    intro d e d' e' heq
    obtain ⟨first, rest, htext, hdigit, -⟩ := decimalText_chars d e
    rw [htext] at heq
    cases heq
    cases hdigit
  obtain ⟨rfl, hbody⟩ : a = b ∧ (decimalText d e).toList = (decimalText d' e').toList := by
    cases a <;> cases b
    · exact ⟨rfl, by simpa using hchars⟩
    · exact absurd (by simpa using hchars) hsign
    · exact absurd (by simpa using hchars.symm) hsign
    · exact ⟨rfl, by simpa using hchars⟩
  have hsaid : (d * 10 ^ e : ℚ) = d' * 10 ^ e' := by
    rw [← saidBy_decimalText, hbody, saidBy_decimalText]
  have hplace : ∀ {m p}, isSignificand m p = true → m = 0 → p = 0 := by
    intro m p hm hzero
    have := (isSignificand_iff.mp hm).2.2
    omega
  obtain ⟨rfl, rfl⟩ : m = n ∧ p = r := by
    rcases hd with ⟨hm0, rfl⟩ | ⟨hmPos, hd⟩ <;> rcases hd' with ⟨hn0, rfl⟩ | ⟨hnPos, hd'⟩
    · exact ⟨hm0.trans hn0.symm, (hplace hm hm0).trans (hplace hn hn0).symm⟩
    · rw [← hsaid] at hd'
      exact absurd (by simpa using hd') (not_holds_zero hnPos)
    · rw [hsaid] at hd
      exact absurd (by simpa using hd) (not_holds_zero hmPos)
    · exact eq_of_holds hm hn hd (hsaid ▸ hd')
  rfl

end Intake.Binary64
