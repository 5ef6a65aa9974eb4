import Mathlib.Data.Nat.Cast.Order.Field
import Conformance.Proofs.Binary64.Rounding

/-!
# Shortest decimals round back

The shortest decimal of a number is looked for on finer and finer grids.  What is found lies in the
interval of the number, and on the grid of seventeen digits something is found: its steps are
narrower than the interval is wide.

## Parts

* `Binary64.Interval.zpow_leadingPlace_le` is about the place of the first digit.
* `Binary64.Interval.mem_of_onGrid?` and `Binary64.Interval.exists_onGrid?` are about one grid,
  `Binary64.Interval.onGrid?_of_search` and `Binary64.Interval.exists_search` about all of them.
* `Binary64.seventeen_digits` compares the steps of the last grid with the interval.
* `Binary64.mem_shortest` is the result.
-/

namespace Conformance.Binary64

namespace Interval

variable {i : Interval} {place : ℤ} {n : ℕ}

/-! ## The first digit -/

lemma inv_pow_le_div_iff {value den k : ℕ} (den_pos : 0 < den) :
    (10 : ℚ) ^ (-(k : ℤ)) ≤ value / den ↔ den ≤ value * 10 ^ k := by
  rw [zpow_neg, zpow_natCast, inv_eq_one_div, div_le_div_iff₀ (by positivity) (by positivity)]
  norm_cast
  rw [one_mul]

/-- The value has a digit at its leading place. -/
lemma zpow_leadingPlace_le (value_pos : 0 < i.value) (den_pos : 0 < i.den) :
    (10 : ℚ) ^ i.leadingPlace ≤ i.value / i.den := by
  unfold leadingPlace
  split_ifs with whole
  · have quotient_pos : 0 < i.value / i.den := Nat.div_pos whole den_pos
    calc (10 : ℚ) ^ ((Nat.toDigits 10 (i.value / i.den)).length - 1 : ℤ)
        ≤ (i.value / i.den : ℕ) := (length_toDigits_bounds quotient_pos).1
      _ ≤ i.value / i.den := Nat.cast_div_le
  · have quotient_pos : 0 < i.den / i.value := Nat.div_pos (not_le.mp whole).le value_pos
    have high := (length_toDigits_bounds quotient_pos).2
    dsimp only
    generalize places_eq : (Nat.toDigits 10 (i.den / i.value)).length = places at high ⊢
    split_ifs with small
    · have some_digits : 0 < places := places_eq ▸ Nat.length_toDigits_pos
      rw [show (1 : ℤ) - places = -((places - 1 : ℕ) : ℤ) by omega]
      exact (inv_pow_le_div_iff den_pos).mpr small
    · refine (inv_pow_le_div_iff den_pos).mpr ?_
      have small_quotient : i.den / i.value < 10 ^ places := by exact_mod_cast high
      rw [Nat.mul_comm]
      exact ((Nat.div_lt_iff_lt_mul value_pos).mp small_quotient).le

/-! ## One grid -/

lemma contains_iff_mem (den_pos : 0 < i.den) :
    i.contains (n * Nat.pow 10 place.toNat) (Nat.pow 10 (-place).toNat) = true ↔
      i.Mem (n * 10 ^ place) := by
  have scaled := scaled_nat n (show 0 < 10 by decide) place
  rw [Nat.cast_ofNat] at scaled
  rw [← scaled]
  exact contains_iff den_pos (Nat.pow_pos (by decide))

lemma roundDiv_eq_or (num den : ℕ) :
    roundDiv num den = num / den ∨ roundDiv num den = num / den + 1 := by
  unfold roundDiv
  dsimp only
  split_ifs <;> simp

/-- What is found on a grid lies in the interval. -/
lemma mem_of_onGrid? (den_pos : 0 < i.den) (found : i.onGrid? place = some n) :
    i.Mem (n * 10 ^ place) := by
  rw [← contains_iff_mem den_pos]
  unfold onGrid? at found
  dsimp only at found
  split at found
  case h_1 below above =>
    obtain rfl := Option.some.inj found
    rcases roundDiv_eq_or _ _ with same | same
    · rwa [same]
    · rwa [same]
  case h_2 below _ =>
    obtain rfl := Option.some.inj found
    exact below
  case h_3 _ above =>
    obtain rfl := Option.some.inj found
    exact above
  case h_4 => cases found

/-- The place of the value on a grid, without what lies between two steps. -/
def gridBelow (i : Interval) (place : ℤ) : ℕ :=
  i.value * 10 ^ (-place).toNat / (i.den * 10 ^ place.toNat)

lemma not_mem_of_onGrid?_eq_none (den_pos : 0 < i.den) (nothing : i.onGrid? place = none) :
    ¬ i.Mem (i.gridBelow place * 10 ^ place) ∧
      ¬ i.Mem ((i.gridBelow place + 1 : ℕ) * 10 ^ place) := by
  rw [← contains_iff_mem den_pos, ← contains_iff_mem den_pos]
  unfold onGrid? at nothing
  dsimp only at nothing
  split at nothing
  case h_4 below above => exact ⟨Bool.eq_false_iff.mp below, Bool.eq_false_iff.mp above⟩
  all_goals cases nothing

/-- The value lies between two neighbours on a grid. -/
lemma gridBelow_bounds (den_pos : 0 < i.den) (place : ℤ) :
    i.gridBelow place * 10 ^ place ≤ (i.value : ℚ) / i.den ∧
      (i.value : ℚ) / i.den < (i.gridBelow place + 1 : ℕ) * 10 ^ place := by
  have power_pos : (0 : ℚ) < 10 ^ place := by positivity
  have scaled := scaled_div i.value i.den (show 0 < 10 by decide) (-place)
  rw [neg_neg, Nat.cast_ofNat, zpow_neg, ← div_eq_mul_inv] at scaled
  rw [← le_div_iff₀ power_pos, ← div_lt_iff₀ power_pos, ← scaled]
  have steps_pos : 0 < i.den * 10 ^ place.toNat := by positivity
  refine ⟨Nat.cast_div_le, (div_lt_iff₀ (by exact_mod_cast steps_pos)).mpr ?_⟩
  exact_mod_cast (Nat.div_lt_iff_lt_mul steps_pos).mp (Nat.lt_succ_self _)

/-- Something is found on a grid with steps narrower than the interval. -/
lemma exists_onGrid? (den_pos : 0 < i.den) (low_lt : (i.low : ℚ) / i.den < i.value / i.den)
    (lt_high : (i.value : ℚ) / i.den < i.high / i.den)
    (narrow : (10 : ℚ) ^ place < i.high / i.den - i.low / i.den) :
    ∃ n, i.onGrid? place = some n := by
  refine Option.ne_none_iff_exists'.mp fun nothing => ?_
  obtain ⟨low, high⟩ := gridBelow_bounds den_pos place
  obtain ⟨below, above⟩ := not_mem_of_onGrid?_eq_none den_pos nothing
  -- With both neighbours outside, the interval would be no wider than one step.
  have low_le := le_low_of_not_within below (low.trans_lt lt_high)
  have high_le := high_le_of_not_within above (low_lt.trans high)
  push_cast at high_le
  linarith

/-! ## All grids -/

/-- What the search ends with was found on its grid. -/
lemma onGrid?_of_search {digits tries : ℕ} (found : i.search digits tries = some (n, place)) :
    i.onGrid? place = some n := by
  induction tries generalizing digits with
  | zero => cases found
  | succ tries ih =>
    unfold search at found
    dsimp only at found
    split at found
    case h_1 m here =>
      obtain ⟨rfl, rfl⟩ := Prod.mk.inj (Option.some.inj found)
      exact here
    case h_2 => exact ih found

/-- If something is found with some number of digits, the search does not fail. -/
lemma exists_search {digits tries k : ℕ} (soon : k < tries)
    (there : ∃ n, i.onGrid? (i.leadingPlace - ((digits + k : ℕ) - 1)) = some n) :
    ∃ decimal, i.search digits tries = some decimal := by
  induction tries generalizing digits k with
  | zero => omega
  | succ tries ih =>
    unfold search
    dsimp only
    split
    case h_1 m here => exact ⟨_, rfl⟩
    case h_2 nothing =>
      cases k with
      | zero =>
        obtain ⟨n, found⟩ := there
        rw [Nat.add_zero, nothing] at found
        cases found
      | succ k =>
        refine ih (k := k) (by omega) ?_
        rwa [Nat.add_right_comm, Nat.add_assoc]

end Interval

/-! ## The shortest decimal -/

lemma stripZeros_eq (places n : ℕ) (place : ℤ) :
    ((stripZeros places n place).1 : ℚ) * 10 ^ (stripZeros places n place).2 =
      n * 10 ^ place := by
  induction places generalizing n place with
  | zero => rfl
  | succ places ih =>
    unfold stripZeros
    split_ifs with zero
    · have tenth : ((n / 10 : ℕ) : ℚ) * 10 = n := by
        exact_mod_cast Nat.div_mul_cancel (Nat.dvd_of_mod_eq_zero zero)
      rw [ih, zpow_add₀ (by norm_num), zpow_one, ← tenth]
      ring
    · rfl

variable {coefficient : ℕ} {exponent : ℤ}

/-- The grid of seventeen digits has steps narrower than the interval of a number. -/
lemma seventeen_digits (normal : Normal coefficient exponent) (pos : 0 < coefficient) :
    (10 : ℚ) ^ ((Interval.around coefficient exponent).leadingPlace - 16) <
      (coefficient + 1 / 2) * 2 ^ exponent -
        (coefficient - reach coefficient exponent) * 2 ^ exponent := by
  have power_pos : (0 : ℚ) < 2 ^ exponent := by positivity
  have value_pos : 0 < (Interval.around coefficient exponent).value := by
    simp [Interval.around, Nat.shiftLeft_eq, pos]
  have leading := Interval.zpow_leadingPlace_le value_pos Interval.den_around_pos
  rw [Interval.value_around] at leading
  -- The interval of a power of two is narrower, but its coefficient is smaller too.
  have fine : (coefficient : ℚ) < (reach coefficient exponent + 1 / 2) * 10 ^ 16 := by
    unfold reach
    split_ifs with power_of_two
    · rw [power_of_two.1]
      norm_num
    · have at_most : (coefficient : ℚ) + 1 ≤ 2 ^ 53 := by exact_mod_cast normal.coefficient_lt
      linarith
  calc (10 : ℚ) ^ ((Interval.around coefficient exponent).leadingPlace - 16)
      = 10 ^ (Interval.around coefficient exponent).leadingPlace / 10 ^ 16 := by
        rw [zpow_sub₀ (by norm_num)]
        rfl
    _ ≤ coefficient * 2 ^ exponent / 10 ^ 16 := by gcongr
    _ < (reach coefficient exponent + 1 / 2) * 10 ^ 16 * 2 ^ exponent / 10 ^ 16 := by gcongr
    _ = _ := by ring

/-- The shortest decimal of a number lies in its interval. -/
lemma mem_shortest (normal : Normal coefficient exponent) (pos : 0 < coefficient) :
    (Interval.around coefficient exponent).Mem
      ((shortest coefficient exponent).1 * 10 ^ (shortest coefficient exponent).2) := by
  have power_pos : (0 : ℚ) < 2 ^ exponent := by positivity
  have near : 1 / 4 ≤ reach coefficient exponent := reach_bounds.1
  have den_pos : 0 < (Interval.around coefficient exponent).den := Interval.den_around_pos
  have low_lt : (coefficient - reach coefficient exponent) * 2 ^ exponent <
      coefficient * 2 ^ exponent := by
    gcongr
    linarith
  have lt_high : (coefficient : ℚ) * 2 ^ exponent < (coefficient + 1 / 2) * 2 ^ exponent := by
    gcongr
    linarith
  have narrow := seventeen_digits normal pos
  rw [← Interval.low_around pos, ← Interval.value_around] at low_lt
  rw [← Interval.high_around, ← Interval.value_around] at lt_high
  rw [← Interval.high_around, ← Interval.low_around pos] at narrow
  have there := Interval.exists_onGrid? den_pos low_lt lt_high narrow
  obtain ⟨⟨n, place⟩, found⟩ : ∃ decimal,
      (Interval.around coefficient exponent).search 1 17 = some decimal :=
    Interval.exists_search (k := 16) (by decide) there
  have stripped : shortest coefficient exponent = stripZeros 20 n place := by
    rw [shortest, found]
  rw [stripped, stripZeros_eq]
  exact Interval.mem_of_onGrid? den_pos (Interval.onGrid?_of_search found)

end Conformance.Binary64
