import Mathlib.Algebra.Order.Field.Power
import Mathlib.Data.Int.Log
import Mathlib.Data.Rat.Floor
import Mathlib.Tactic.FieldSimp
import Mathlib.Tactic.Linarith
import Mathlib.Tactic.NormNum
import Mathlib.Tactic.Positivity
import Mathlib.Tactic.Ring
import Conformance.Binary64.Shortest

/-!
# Rounding to binary64

Every finite number has an interval around it, and what lies in the interval is rounded to the
number.  Intervals and rounding are computed on natural numbers; here both are compared with the
rational numbers that they are about.

## Parts

* `Binary64.Within` is a range of rational numbers with or without its ends.
* `Binary64.Normal` are the coefficients and exponents of finite numbers, and
  `Binary64.normal_of_datum` is where they come from.
* `Binary64.reach` and `Binary64.Interval.mem_around_iff` are the interval of a number.
* `Binary64.roundDiv_eq`, `Binary64.unitExponent_eq` and `Binary64.roundRatio_of_mem` are the steps
  of rounding.
* `Binary64.ofDecimal_of_mem` is the result.
-/

namespace Conformance.Binary64

/-! ## Ranges of rational numbers -/

/-- Between two bounds, which may belong to the range or not. -/
def Within (closed : Bool) (low high q : ℚ) : Prop :=
  if closed then low ≤ q ∧ q ≤ high else low < q ∧ q < high

variable {closed : Bool} {low high q s : ℚ}

lemma within_of_lt (above : low < q) (below : q < high) : Within closed low high q := by
  cases closed
  · exact ⟨above, below⟩
  · exact ⟨above.le, below.le⟩

lemma Within.le (within : Within closed low high q) : low ≤ q ∧ q ≤ high := by
  cases closed
  · exact ⟨within.1.le, within.2.le⟩
  · exact within

lemma Within.mono {low' high' : ℚ} (within : Within closed low high q) (lower : low' ≤ low)
    (higher : high ≤ high') : Within closed low' high' q := by
  cases closed
  · exact ⟨lower.trans_lt within.1, within.2.trans_le higher⟩
  · exact ⟨lower.trans within.1, within.2.trans higher⟩

lemma within_mul_iff (pos : 0 < s) :
    Within closed (low * s) (high * s) (q * s) ↔ Within closed low high q := by
  cases closed
  · exact and_congr (mul_lt_mul_iff_left₀ pos) (mul_lt_mul_iff_left₀ pos)
  · exact and_congr (mul_le_mul_iff_left₀ pos) (mul_le_mul_iff_left₀ pos)

/-- What is outside of a range but not above is below. -/
lemma le_low_of_not_within (outside : ¬ Within closed low high q) (below : q < high) : q ≤ low :=
  not_lt.mp fun above => outside (within_of_lt above below)

lemma high_le_of_not_within (outside : ¬ Within closed low high q) (above : low < q) : high ≤ q :=
  not_lt.mp fun below => outside (within_of_lt above below)

/-- Fractions are scaled by a power of a base on one side or the other. -/
lemma scaled_div (num den : ℕ) {base : ℕ} (pos : 0 < base) (k : ℤ) :
    ((num * base ^ k.toNat : ℕ) : ℚ) / ((den * base ^ (-k).toNat : ℕ) : ℚ) =
      num / den * (base : ℚ) ^ k := by
  have base_pos : (0 : ℚ) < base := by exact_mod_cast pos
  rcases le_total 0 k with nonneg | nonpos
  · obtain ⟨n, rfl⟩ := Int.eq_ofNat_of_zero_le nonneg
    simp [mul_div_right_comm]
  · obtain ⟨n, power⟩ := Int.eq_ofNat_of_zero_le (Int.neg_nonneg.mpr nonpos)
    obtain rfl : k = -n := by omega
    have no_factor : (-(n : ℤ)).toNat = 0 := by omega
    simp [no_factor, mul_comm (den : ℚ), div_eq_mul_inv, mul_assoc]

lemma scaled_nat (n : ℕ) {base : ℕ} (pos : 0 < base) (k : ℤ) :
    ((n * base ^ k.toNat : ℕ) : ℚ) / ((base ^ (-k).toNat : ℕ) : ℚ) = n * (base : ℚ) ^ k := by
  have scaled := scaled_div n 1 pos k
  rwa [one_mul, Nat.cast_one, div_one] at scaled

/-! ## Finite numbers -/

/-- The coefficients and exponents of finite numbers, the zeros among them. -/
structure Normal (coefficient : ℕ) (exponent : ℤ) : Prop where
  coefficient_lt : coefficient < 2 ^ 53
  least_le : -1074 ≤ exponent
  le_greatest : exponent ≤ 971
  large : 2 ^ 52 ≤ coefficient ∨ exponent = -1074

/-- The magnitude bits of a finite number. -/
def magnitudeOf (coefficient : ℕ) (exponent : ℤ) : ℕ :=
  coefficient + (exponent + 1074).toNat * 2 ^ 52

lemma ofMagnitude_magnitude (x : Binary64) : ofMagnitude x.negative x.magnitude = x := by
  have bits := x.bits.toNat_lt
  have sum : (if x.negative then 1 <<< 63 + x.magnitude else x.magnitude) = x.bits.toNat := by
    simp only [negative, magnitude, Nat.shiftLeft_eq, decide_eq_true_eq]
    split <;> omega
  rw [ofMagnitude, sum, UInt64.ofNat_toNat]

variable {coefficient : ℕ} {exponent : ℤ}

/-- The parts of a finite number. -/
lemma normal_of_datum {x : Binary64} {negative : Bool}
    (datum : x.datum = .finite negative coefficient exponent) :
    Normal coefficient exponent ∧ x.negative = negative ∧
      x.magnitude = magnitudeOf coefficient exponent ∧ x.magnitude < infiniteMagnitude := by
  simp only [Binary64.datum, infiniteMagnitude, Nat.shiftRight_eq_div_pow, Nat.shiftLeft_eq]
    at datum ⊢
  split_ifs at datum with nan infinite small
  · obtain ⟨rfl, rfl, rfl⟩ := Datum.finite.inj datum
    have bits : x.magnitude = magnitudeOf (x.magnitude % (1 * 2 ^ 52)) (-1074) := by
      rw [magnitudeOf, neg_add_cancel, Int.toNat_zero]
      omega
    exact ⟨⟨by omega, by omega, by omega, by omega⟩, rfl, bits, by omega⟩
  · obtain ⟨rfl, rfl, rfl⟩ := Datum.finite.inj datum
    have bits : x.magnitude = magnitudeOf (1 * 2 ^ 52 + x.magnitude % (1 * 2 ^ 52))
        ((x.magnitude / 2 ^ 52 : ℕ) - 1075) := by
      rw [magnitudeOf]
      omega
    exact ⟨⟨by omega, by omega, by omega, by omega⟩, rfl, bits, by omega⟩

lemma isNan_iff (x : Binary64) : x.isNan = true ↔ x.datum = .nan := by
  unfold isNan Binary64.datum
  dsimp only
  split_ifs with nan
  all_goals simp [nan]

lemma eq_infinite_of_datum {x : Binary64} {negative : Bool} (datum : x.datum = .infinite negative) :
    x = infinite negative := by
  unfold Binary64.datum at datum
  dsimp only at datum
  split_ifs at datum with nan bits
  obtain rfl := Datum.infinite.inj datum
  rw [infinite, bits, ofMagnitude_magnitude]

/-! ## The interval of a number -/

/-- How far the interval of a number reaches below it, in units of its last bit.  The neighbour
below a power of two is only half as far away. -/
def reach (coefficient : ℕ) (exponent : ℤ) : ℚ :=
  if coefficient = 2 ^ 52 ∧ exponent ≠ -1074 then 1 / 4 else 1 / 2

lemma reach_bounds : 1 / 4 ≤ reach coefficient exponent ∧ reach coefficient exponent ≤ 1 / 2 := by
  unfold reach
  split_ifs <;> norm_num

namespace Interval

/-- The interval as a range of rational numbers. -/
def Mem (i : Interval) (q : ℚ) : Prop :=
  Within i.closed (i.low / i.den) (i.high / i.den) q

lemma contains_iff {i : Interval} (i_den : 0 < i.den) {num den : ℕ} (den_pos : 0 < den) :
    i.contains num den = true ↔ i.Mem (num / den) := by
  have scale_pos : (0 : ℚ) < i.den * den := by positivity
  have low : (i.low : ℚ) / i.den * (i.den * den) = (i.low * den : ℕ) := by
    push_cast
    field_simp
  have high : (i.high : ℚ) / i.den * (i.den * den) = (i.high * den : ℕ) := by
    push_cast
    field_simp
  have here : (num : ℚ) / den * (i.den * den) = (num * i.den : ℕ) := by
    push_cast
    field_simp
  rw [Mem, ← within_mul_iff scale_pos, low, high, here]
  unfold contains Within
  split_ifs <;> simp only [Bool.and_eq_true, decide_eq_true_eq, Nat.cast_le, Nat.cast_lt]

lemma den_around_pos : 0 < (around coefficient exponent).den := by
  simp [around, Nat.shiftLeft_eq]

/-- One unit of the numerators is a quarter of the last bit. -/
lemma div_around (n : ℕ) :
    ((n * 1 <<< (exponent - 2).toNat : ℕ) : ℚ) / (1 <<< (2 - exponent).toNat : ℕ) =
      n / 4 * 2 ^ exponent := by
  have scaled := scaled_nat n two_pos (exponent - 2)
  rw [neg_sub, Nat.cast_ofNat, zpow_sub₀ two_ne_zero] at scaled
  rw [Nat.shiftLeft_eq, Nat.shiftLeft_eq, one_mul, one_mul, scaled]
  ring

lemma value_around : ((around coefficient exponent).value : ℚ) / (around coefficient exponent).den =
    coefficient * 2 ^ exponent := by
  refine (div_around (4 * coefficient)).trans ?_
  push_cast
  ring

lemma high_around : ((around coefficient exponent).high : ℚ) / (around coefficient exponent).den =
    (coefficient + 1 / 2) * 2 ^ exponent := by
  refine (div_around (4 * coefficient + 2)).trans ?_
  push_cast
  ring

lemma low_around (pos : 0 < coefficient) :
    ((around coefficient exponent).low : ℚ) / (around coefficient exponent).den =
      (coefficient - reach coefficient exponent) * 2 ^ exponent := by
  refine (div_around (4 * coefficient - _)).trans ?_
  simp only [reach, Nat.shiftLeft_eq, one_mul]
  split_ifs
  · rw [Nat.cast_sub (by omega)]
    push_cast
    ring
  · rw [Nat.cast_sub (by omega)]
    push_cast
    ring

/-- The interval of a number, in units of its last bit. -/
lemma mem_around_iff (pos : 0 < coefficient) {q : ℚ} :
    (around coefficient exponent).Mem q ↔
      Within (coefficient % 2 = 0) (coefficient - reach coefficient exponent)
        (coefficient + 1 / 2) (q / 2 ^ exponent) := by
  have power_pos : (0 : ℚ) < 2 ^ exponent := by positivity
  rw [← within_mul_iff power_pos, div_mul_cancel₀ _ power_pos.ne', ← low_around pos, ← high_around]
  rfl

lemma pos_of_mem (pos : 0 < coefficient) {q : ℚ} (mem : (around coefficient exponent).Mem q) :
    0 < q := by
  have power_pos : (0 : ℚ) < 2 ^ exponent := by positivity
  have near : reach coefficient exponent ≤ 1 / 2 := reach_bounds.2
  have at_least : (1 : ℚ) ≤ coefficient := by exact_mod_cast pos
  have low := ((mem_around_iff pos).mp mem).le.1
  refine (div_pos_iff_of_pos_right power_pos).mp ?_
  linarith

end Interval

/-! ## Rounding a quotient -/

lemma within_half_iff {num den n : ℕ} (pos : 0 < den) :
    Within closed (n - 1 / 2) (n + 1 / 2) (num / den) ↔
      if closed then 2 * (den * n) ≤ 2 * num + den ∧ 2 * num ≤ 2 * (den * n) + den
      else 2 * (den * n) < 2 * num + den ∧ 2 * num < 2 * (den * n) + den := by
  have den_pos : (0 : ℚ) < 2 * den := by positivity
  have low : ((n : ℚ) - 1 / 2) * (2 * den) = 2 * (den * n) - den := by ring
  have high : ((n : ℚ) + 1 / 2) * (2 * den) = 2 * (den * n) + den := by ring
  have here : (num : ℚ) / den * (2 * den) = 2 * num := by field_simp
  rw [← within_mul_iff den_pos, low, high, here]
  unfold Within
  split_ifs
  · rw [sub_le_iff_le_add]
    norm_cast
  · rw [sub_lt_iff_lt_add]
    norm_cast

/-- A quotient that is nearest to a number is rounded to it, and so is one halfway if the number is
even. -/
lemma roundDiv_eq {num den n : ℕ} (pos : 0 < den)
    (near : Within (n % 2 = 0) (n - 1 / 2) (n + 1 / 2) (num / den)) : roundDiv num den = n := by
  have parts : den * (num / den) + num % den = num := Nat.div_add_mod num den
  have part : num % den < den := Nat.mod_lt _ pos
  rw [within_half_iff pos] at near
  -- Without its fraction the quotient is the number, or the one before it.
  have quotient : num / den = n ∨ num / den + 1 = n := by
    have at_most : num / den < n + 1 := by
      refine Nat.div_lt_of_lt_mul ?_
      rw [Nat.mul_succ]
      split_ifs at near <;> omega
    have at_least : n < num / den + 2 := by
      refine lt_of_mul_lt_mul_left (a := den) ?_ (Nat.zero_le _)
      rw [Nat.mul_add]
      split_ifs at near <;> omega
    omega
  unfold roundDiv
  rcases quotient with same | before
  · rw [same] at parts ⊢
    simp only [decide_eq_true_eq] at near
    dsimp only
    split_ifs at near ⊢ <;> omega
  · have last : den * n = den * (num / den) + den := by rw [← before, Nat.mul_succ]
    simp only [decide_eq_true_eq] at near
    dsimp only
    split_ifs at near ⊢ <;> omega

lemma roundScaled_eq {num den n : ℕ} (pos : 0 < den) {k : ℤ}
    (near : Within (n % 2 = 0) (n - 1 / 2) (n + 1 / 2) (num / den * 2 ^ k)) :
    roundScaled num den k = n := by
  have both_sides : roundScaled num den k =
      roundDiv (num * 2 ^ k.toNat) (den * 2 ^ (-k).toNat) := by
    unfold roundScaled
    rw [Nat.shiftLeft_eq, Nat.shiftLeft_eq]
    split_ifs with nonneg
    · rw [show (-k).toNat = 0 by omega, pow_zero, mul_one]
    · rw [show k.toNat = 0 by omega, pow_zero, mul_one]
  rw [both_sides]
  refine roundDiv_eq (by positivity) ?_
  rwa [scaled_div num den two_pos k]

lemma log_eq_of_bounds {q : ℚ} (pos : 0 < q) {k : ℤ} (low : 2 ^ k ≤ q) (high : q < 2 ^ (k + 1)) :
    Int.log 2 q = k := by
  have at_least := (Int.zpow_le_iff_le_log one_lt_two pos).mp (by exact_mod_cast low)
  have at_most := (Int.lt_zpow_iff_log_lt one_lt_two pos).mp (by exact_mod_cast high)
  omega

lemma two_zpow_le_div_iff {num den : ℕ} (den_pos : 0 < den) (k : ℤ) :
    (if 0 ≤ k then den <<< k.toNat ≤ num else den ≤ num <<< (-k).toNat) ↔
      (2 : ℚ) ^ k ≤ num / den := by
  have power := scaled_nat 1 two_pos k
  rw [one_mul, Nat.cast_one, one_mul, Nat.cast_ofNat] at power
  rw [← power, div_le_div_iff₀ (by positivity) (by positivity), Nat.shiftLeft_eq, Nat.shiftLeft_eq]
  norm_cast
  rw [Nat.mul_comm]
  split_ifs with nonneg
  · rw [show (-k).toNat = 0 by omega, pow_zero, mul_one]
  · rw [show k.toNat = 0 by omega, pow_zero, one_mul]

/-- The binary logarithm of a quotient is that of its parts, up to one. -/
lemma log2_bounds {num den : ℕ} (num_pos : 0 < num) (den_pos : 0 < den) :
    (2 : ℚ) ^ ((num.log2 : ℤ) - den.log2 - 1) ≤ num / den ∧
      num / den < (2 : ℚ) ^ ((num.log2 : ℤ) - den.log2 + 1) := by
  have num_low : (2 : ℚ) ^ num.log2 ≤ num := by exact_mod_cast Nat.log2_self_le num_pos.ne'
  have num_high : (num : ℚ) < 2 ^ (num.log2 + 1) := by exact_mod_cast Nat.lt_log2_self
  have den_low : (2 : ℚ) ^ den.log2 ≤ den := by exact_mod_cast Nat.log2_self_le den_pos.ne'
  have den_high : (den : ℚ) < 2 ^ (den.log2 + 1) := by exact_mod_cast Nat.lt_log2_self
  have den_pos' : (0 : ℚ) < den := by exact_mod_cast den_pos
  constructor
  · have split : (2 : ℚ) ^ ((num.log2 : ℤ) - den.log2 - 1) = 2 ^ num.log2 / 2 ^ (den.log2 + 1) := by
      rw [sub_sub, zpow_sub₀ two_ne_zero]
      norm_cast
    rw [split]
    gcongr
  · have split : (2 : ℚ) ^ ((num.log2 : ℤ) - den.log2 + 1) = 2 ^ (num.log2 + 1) / 2 ^ den.log2 := by
      rw [sub_add_eq_add_sub, zpow_sub₀ two_ne_zero]
      norm_cast
    rw [split]
    gcongr

/-- The last bit that is kept is the one 52 places below the first, or the least of all. -/
lemma unitExponent_eq {num den : ℕ} (num_pos : 0 < num) (den_pos : 0 < den) :
    unitExponent num den = max (Int.log 2 ((num : ℚ) / den) - 52) (-1074) := by
  have pos : (0 : ℚ) < num / den := by positivity
  obtain ⟨low, high⟩ := log2_bounds num_pos den_pos
  unfold unitExponent
  simp only [two_zpow_le_div_iff den_pos]
  split_ifs with at_least
  · rw [log_eq_of_bounds pos at_least high]
  · rw [log_eq_of_bounds pos low (by rw [sub_add_cancel]; exact not_le.mp at_least)]
    omega

lemma le_log_iff {q : ℚ} (pos : 0 < q) (k : ℤ) (n : ℕ) :
    2 ^ n ≤ q / 2 ^ k ↔ k + n ≤ Int.log 2 q := by
  have power_pos : (0 : ℚ) < 2 ^ k := by positivity
  rw [le_div_iff₀ power_pos, ← Int.zpow_le_iff_le_log one_lt_two pos, Nat.cast_ofNat,
    zpow_add₀ two_ne_zero, zpow_natCast, mul_comm]

/-- In the interval of a number the last bit that is kept is that of the number, except below a
power of two, where it is the one behind. -/
lemma unitExponent_of_mem (normal : Normal coefficient exponent) {num den : ℕ}
    (num_pos : 0 < num) (den_pos : 0 < den)
    (within : Within (coefficient % 2 = 0) (coefficient - reach coefficient exponent)
      (coefficient + 1 / 2) (num / den / 2 ^ exponent)) :
    unitExponent num den = exponent ∨
      coefficient = 2 ^ 52 ∧ -1074 < exponent ∧ unitExponent num den = exponent - 1 ∧
        (num : ℚ) / den / 2 ^ exponent < 2 ^ 52 := by
  have pos : (0 : ℚ) < num / den := by positivity
  have at_least := le_log_iff pos exponent
  have lower := normal.least_le
  obtain ⟨low, high⟩ := within.le
  rw [unitExponent_eq num_pos den_pos]
  have log_lt : Int.log 2 ((num : ℚ) / den) < exponent + 53 := by
    have coefficient_le : (coefficient : ℚ) + 1 ≤ 2 ^ 53 := by
      exact_mod_cast normal.coefficient_lt
    refine not_le.mp fun le => absurd ((at_least 53).mpr le) (not_le.mpr ?_)
    linarith
  rcases normal.large with large | least
  · have larger : (2 : ℚ) ^ 52 ≤ coefficient := by exact_mod_cast large
    have near : reach coefficient exponent ≤ 1 / 2 := reach_bounds.2
    have at_most := at_least 52
    have log_ge := (at_least 51).mp (by linarith)
    by_cases below : (num : ℚ) / den / 2 ^ exponent < 2 ^ 52
    · by_cases least : exponent = -1074
      · omega
      have power_of_two : coefficient = 2 ^ 52 := by
        by_contra other
        have larger_still : (2 : ℚ) ^ 52 + 1 ≤ coefficient := by
          exact_mod_cast (show 2 ^ 52 + 1 ≤ coefficient by omega)
        linarith
      have log_lt' := at_most.not.mp (not_le.mpr below)
      exact Or.inr ⟨power_of_two, by omega, by omega, below⟩
    · have log_ge' := at_most.mp (not_lt.mp below)
      omega
  · omega

/-- Rounding assembles the magnitude bits from the coefficient and the exponent.  A coefficient that
is rounded up to a power of two carries over. -/
lemma roundRatio_eq {num den rounded : ℕ} {unit : ℤ} (num_pos : 0 < num)
    (finite : magnitudeOf coefficient exponent < infiniteMagnitude)
    (unit_eq : unitExponent num den = unit) (rounded_eq : roundScaled num den (-unit) = rounded)
    (bits : magnitudeOf rounded unit = magnitudeOf coefficient exponent) (negative : Bool) :
    roundRatio negative num den = ofMagnitude negative (magnitudeOf coefficient exponent) := by
  unfold roundRatio
  dsimp only
  rw [if_neg num_pos.ne', unit_eq, rounded_eq, Nat.shiftLeft_eq]
  change ofMagnitude negative (min (magnitudeOf rounded unit) infiniteMagnitude) = _
  rw [bits, Nat.min_eq_left finite.le]

/-- A quotient in the interval of a number is rounded to the number. -/
lemma roundRatio_of_mem (normal : Normal coefficient exponent) (pos : 0 < coefficient)
    (finite : magnitudeOf coefficient exponent < infiniteMagnitude) {num den : ℕ}
    (den_pos : 0 < den) (mem : (Interval.around coefficient exponent).Mem (num / den))
    (negative : Bool) :
    roundRatio negative num den = ofMagnitude negative (magnitudeOf coefficient exponent) := by
  have within := (Interval.mem_around_iff pos).mp mem
  have num_pos : 0 < num := by
    have quotient_pos := Interval.pos_of_mem pos mem
    rw [div_pos_iff_of_pos_right (by exact_mod_cast den_pos)] at quotient_pos
    exact_mod_cast quotient_pos
  rcases unitExponent_of_mem normal num_pos den_pos within with unit | ⟨rfl, above, unit, below⟩
  · have near : reach coefficient exponent ≤ 1 / 2 := reach_bounds.2
    refine roundRatio_eq num_pos finite unit (roundScaled_eq den_pos ?_) rfl negative
    rw [zpow_neg, ← div_eq_mul_inv]
    exact within.mono (by linarith) le_rfl
  -- Half a unit below the power of two is as near to it as to the number before, which is odd.
  · have doubled : (num : ℚ) / den * 2 ^ (-(exponent - 1)) = num / den / 2 ^ exponent * 2 := by
      rw [neg_sub, zpow_sub₀ two_ne_zero, zpow_one]
      ring
    have quarter : reach (2 ^ 52) exponent = 1 / 4 := if_pos ⟨rfl, above.ne'⟩
    have low := within.le.1
    have near : Within (2 ^ 53 % 2 = 0) ((2 ^ 53 : ℕ) - 1 / 2) ((2 ^ 53 : ℕ) + 1 / 2)
        ((num : ℚ) / den * 2 ^ (-(exponent - 1))) := by
      rw [quarter] at low
      push_cast at low
      rw [doubled, show decide (2 ^ 53 % 2 = 0) = true from rfl]
      push_cast
      exact ⟨by linarith, by linarith⟩
    have carried : magnitudeOf (2 ^ 53) (exponent - 1) = magnitudeOf (2 ^ 52) exponent := by
      unfold magnitudeOf
      omega
    exact roundRatio_eq num_pos finite unit (roundScaled_eq den_pos near) carried negative

/-! ## Rounding a decimal -/

/-- The digits of a number are as many as its size asks for. -/
lemma length_toDigits_bounds {n : ℕ} (pos : 0 < n) :
    (10 : ℚ) ^ ((Nat.toDigits 10 n).length - 1 : ℤ) ≤ n ∧
      (n : ℚ) < 10 ^ ((Nat.toDigits 10 n).length : ℤ) := by
  obtain ⟨before, length⟩ := Nat.exists_eq_add_one_of_ne_zero
    (Nat.length_toDigits_pos (b := 10) (n := n)).ne'
  have at_most (k : ℕ) (some_digits : 0 < k) : (Nat.toDigits 10 n).length ≤ k ↔ n < 10 ^ k :=
    Nat.length_toDigits_le_iff (by decide) some_digits
  have low : 10 ^ before ≤ n := by
    by_contra less
    rcases Nat.eq_zero_or_pos before with rfl | more
    · omega
    · have fewer := (at_most before more).mpr (not_le.mp less)
      omega
  have high : n < 10 ^ (before + 1) := (at_most _ (Nat.succ_pos _)).mp length.le
  rw [length, Nat.cast_succ, add_sub_cancel_right]
  exact ⟨by exact_mod_cast low, by exact_mod_cast high⟩

lemma ten_zpow_lt_two_zpow : (10 : ℚ) ^ (-331 : ℤ) < 2 ^ (-1075 : ℤ) := by
  have powers : 2 ^ 1075 < 10 ^ 331 := by decide +kernel
  rw [zpow_neg, zpow_neg]
  refine inv_strictAnti₀ (by positivity) ?_
  exact_mod_cast powers

lemma two_zpow_lt_ten_zpow : (2 : ℚ) ^ (1024 : ℤ) < 10 ^ (310 : ℤ) := by
  have powers : 2 ^ 1024 < 10 ^ 310 := by decide +kernel
  exact_mod_cast powers

/-- Numbers, and what is rounded to them, are not far outside of the range of the format. -/
lemma bounds_of_mem (normal : Normal coefficient exponent) (pos : 0 < coefficient) {q : ℚ}
    (mem : (Interval.around coefficient exponent).Mem q) :
    10 ^ (-331 : ℤ) < q ∧ q < 10 ^ (310 : ℤ) := by
  obtain ⟨low, high⟩ := ((Interval.mem_around_iff pos).mp mem).le
  have power_pos : (0 : ℚ) < 2 ^ exponent := by positivity
  have near : reach coefficient exponent ≤ 1 / 2 := reach_bounds.2
  have at_least : (1 : ℚ) ≤ coefficient := by exact_mod_cast pos
  have at_most : (coefficient : ℚ) + 1 ≤ 2 ^ 53 := by exact_mod_cast normal.coefficient_lt
  rw [le_div_iff₀ power_pos] at low
  rw [div_le_iff₀ power_pos] at high
  constructor
  · calc (10 : ℚ) ^ (-331 : ℤ) < 2 ^ (-1075 : ℤ) := ten_zpow_lt_two_zpow
      _ ≤ 2 ^ (-1 + exponent) := zpow_le_zpow_right₀ one_le_two (by linarith [normal.least_le])
      _ = 1 / 2 * 2 ^ exponent := by rw [zpow_add₀ two_ne_zero, zpow_neg_one, one_div]
      _ ≤ (coefficient - reach coefficient exponent) * 2 ^ exponent := by
          gcongr
          linarith
      _ ≤ q := low
  · calc q ≤ (coefficient + 1 / 2) * 2 ^ exponent := high
      _ ≤ 2 ^ 53 * 2 ^ exponent := by
          gcongr
          linarith
      _ = 2 ^ (53 + exponent) := by rw [zpow_add₀ two_ne_zero]; rfl
      _ ≤ 2 ^ (1024 : ℤ) := zpow_le_zpow_right₀ one_le_two (by linarith [normal.le_greatest])
      _ < 10 ^ (310 : ℤ) := two_zpow_lt_ten_zpow

/-- A decimal in the interval of a number is rounded to the number. -/
lemma ofDecimal_of_mem (normal : Normal coefficient exponent) (pos : 0 < coefficient)
    (finite : magnitudeOf coefficient exponent < infiniteMagnitude) {n : ℕ} {place : ℤ}
    (mem : (Interval.around coefficient exponent).Mem (n * 10 ^ place)) (negative : Bool) :
    ofDecimal negative n place = ofMagnitude negative (magnitudeOf coefficient exponent) := by
  obtain ⟨above, below⟩ := bounds_of_mem normal pos mem
  have power_pos : (0 : ℚ) < 10 ^ place := by positivity
  have n_pos : 0 < n := by
    have value_pos := Interval.pos_of_mem pos mem
    exact_mod_cast pos_of_mul_pos_left value_pos power_pos.le
  obtain ⟨low, high⟩ := length_toDigits_bounds n_pos
  unfold ofDecimal
  dsimp only
  generalize ((Nat.toDigits 10 n).length : ℤ) = length at low high ⊢
  have top_ge : -331 < length + place := by
    refine (zpow_lt_zpow_iff_right₀ (by norm_num : (1 : ℚ) < 10)).mp (above.trans ?_)
    rw [zpow_add₀ (by norm_num)]
    exact mul_lt_mul_of_pos_right high power_pos
  have top_le : length - 1 + place < 310 := by
    refine (zpow_lt_zpow_iff_right₀ (by norm_num : (1 : ℚ) < 10)).mp (lt_of_le_of_lt ?_ below)
    rw [zpow_add₀ (by norm_num)]
    exact mul_le_mul_of_nonneg_right low power_pos.le
  have scaled := scaled_nat n (show 0 < 10 by decide) place
  rw [Nat.cast_ofNat] at scaled
  rw [if_neg (by simp; omega), if_neg (by omega)]
  split_ifs with nonneg
  · refine roundRatio_of_mem normal pos finite one_pos ?_ negative
    rw [show (-place).toNat = 0 by omega, pow_zero] at scaled
    exact scaled ▸ mem
  · refine roundRatio_of_mem normal pos finite (Nat.pow_pos (by decide)) ?_ negative
    rw [show place.toNat = 0 by omega, pow_zero, mul_one] at scaled
    exact scaled ▸ mem

end Conformance.Binary64
