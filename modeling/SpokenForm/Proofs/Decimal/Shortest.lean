import SpokenForm.Proofs.Decimal.Nearest

/-! Shortest digits. The search ends at a grid with a number in the interval, at the latest at one that
the number itself lies on, so the digits are rounded to it. -/
namespace SpokenForm.Decimal

def gridNumber (decimal : Nat) (power : Int) : ℚ := decimal * 10 ^ power

variable {interval : Interval} {decimal binary count : Nat} {power exponent : Int} {value : Float}

/-! Comparisons. -/

/-- What both sides of a comparison are multiplied with. -/
def clearing (power exponent : Int) : ℚ := 10 ^ (-power).toNat * 2 ^ (-exponent).toNat

theorem clearing_pos (power exponent : Int) : 0 < clearing power exponent := by
  unfold clearing
  positivity

theorem zpow_mul_pow_toNat {base : ℚ} (notZero : base ≠ 0) (exponent : Int) :
    base ^ exponent * base ^ (-exponent).toNat = base ^ exponent.toNat := by
  rw [← zpow_natCast, ← zpow_natCast, ← zpow_add₀ notZero]
  congr 1
  omega

theorem sides_fst : ((sides decimal power binary exponent).1 : ℚ) =
    gridNumber decimal power * clearing power exponent := by
  have cleared := zpow_mul_pow_toNat (show (10 : ℚ) ≠ 0 by norm_num) power
  simp only [sides, gridNumber, clearing, Nat.pow_eq, Nat.cast_mul, Nat.cast_pow, Nat.cast_ofNat,
    ← cleared]
  ring

theorem sides_snd : ((sides decimal power binary exponent).2 : ℚ) =
    binary * 2 ^ exponent * clearing power exponent := by
  have cleared := zpow_mul_pow_toNat (two_ne_zero (α := ℚ)) exponent
  simp only [sides, clearing, Nat.pow_eq, Nat.cast_mul, Nat.cast_pow, Nat.cast_ofNat, ← cleared]
  ring

theorem sides_le_iff : (sides decimal power binary exponent).1 ≤ (sides decimal power binary exponent).2 ↔
    gridNumber decimal power ≤ binary * 2 ^ exponent := by
  rw [← Nat.cast_le (α := ℚ), sides_fst, sides_snd, mul_le_mul_iff_left₀ (clearing_pos _ _)]

theorem le_sides_iff : (sides decimal power binary exponent).2 ≤ (sides decimal power binary exponent).1 ↔
    binary * 2 ^ exponent ≤ gridNumber decimal power := by
  rw [← Nat.cast_le (α := ℚ), sides_fst, sides_snd, mul_le_mul_iff_left₀ (clearing_pos _ _)]

theorem holds_iff : interval.holds decimal power = true ↔ interval.Contains (gridNumber decimal power) := by
  simp only [Interval.holds, Interval.Contains, Interval.quarters]
  split <;> simp only [Bool.and_eq_true, decide_eq_true_eq, ← not_le, sides_le_iff, le_sides_iff]

/-! The search. -/

theorem passes_of_first_or_second {passes : Nat → Bool} {first second : Nat}
    (found : (if passes first then some first else if passes second then some second else none) =
      some decimal) : passes decimal = true := by
  split at found
  · rename_i passed
    exact Option.some.inj found ▸ passed
  · split at found
    · rename_i passed
      exact Option.some.inj found ▸ passed
    · cases found

theorem contains_of_closest? (found : interval.closest? power = some decimal) :
    interval.Contains (gridNumber decimal power) :=
  holds_iff.mp (@passes_of_first_or_second decimal (interval.holds · power) _ _ found)

theorem contains_value (lower : interval.lower < interval.value) (upper : interval.value < interval.upper) :
    interval.Contains (interval.quarters interval.value) := by
  have quarter : (0 : ℚ) < 2 ^ interval.exponent := zpow_pos two_pos _
  have above : interval.quarters interval.lower < interval.quarters interval.value :=
    mul_lt_mul_of_pos_right (Nat.cast_lt.mpr lower) quarter
  have below : interval.quarters interval.value < interval.quarters interval.upper :=
    mul_lt_mul_of_pos_right (Nat.cast_lt.mpr upper) quarter
  unfold Interval.Contains
  split
  · exact ⟨above.le, below.le⟩
  · exact ⟨above, below⟩

/-- Two divides ten, so that a grid as fine as a binary number has it. -/
theorem sides_dvd (binary : Nat) (fine : power ≤ min exponent 0) :
    (sides 1 power binary exponent).1 ∣ (sides 1 power binary exponent).2 := by
  have whole : power.toNat = 0 := by omega
  have powers : (2 : Nat) ^ (-exponent).toNat ∣ 10 ^ (-power).toNat :=
    (pow_dvd_pow 2 (by omega)).trans (pow_dvd_pow_of_dvd (by norm_num) _)
  simpa [sides, whole] using powers.mul_left (binary * 2 ^ exponent.toNat)

/-- A grid as fine as a number has it. -/
theorem exists_closest? (fine : power ≤ min interval.exponent 0)
    (lower : interval.lower < interval.value) (upper : interval.value < interval.upper) :
    ∃ decimal, interval.closest? power = some decimal := by
  obtain ⟨decimal, split⟩ := sides_dvd interval.value fine
  have unit : ((sides 1 power interval.value interval.exponent).1 : ℚ) =
      10 ^ power * clearing power interval.exponent := by
    rw [sides_fst, gridNumber, Nat.cast_one, one_mul]
  have same : gridNumber decimal power = interval.quarters interval.value := by
    have product := congrArg (Nat.cast (R := ℚ)) split
    rw [sides_snd, Nat.cast_mul, unit] at product
    refine mul_right_cancel₀ (clearing_pos power interval.exponent).ne' ?_
    rw [gridNumber, Interval.quarters, product]
    ring
  have held : interval.holds decimal power = true := holds_iff.mpr (same ▸ contains_value lower upper)
  have positive : 0 < (sides 1 power interval.value interval.exponent).1 := by
    rw [← Nat.cast_pos (α := ℚ), unit]
    exact mul_pos (zpow_pos (by norm_num) _) (clearing_pos _ _)
  refine ⟨decimal, ?_⟩
  simp only [Interval.closest?, split, Nat.mul_mod_right, Nat.mul_div_cancel_left _ positive]
  simp [positive, held]

/-- The search ends if the last of the grids has a number in the interval. -/
theorem contains_coarsest (last : ∃ decimal, interval.closest? (power - count) = some decimal) :
    interval.Contains (gridNumber (interval.coarsest (count + 1) power).1
      (interval.coarsest (count + 1) power).2) := by
  induction count generalizing power with
  | zero =>
    obtain ⟨decimal, found⟩ := last
    rw [Nat.cast_zero, sub_zero] at found
    simpa only [Interval.coarsest, found] using contains_of_closest? found
  | succ count ih =>
    unfold Interval.coarsest
    split
    · rename_i decimal found
      exact contains_of_closest? found
    · refine ih ?_
      rwa [Nat.cast_succ, ← sub_sub, sub_right_comm] at last

variable (notZero : (intervalOf value).value ≠ 0)
include notZero

theorem contains_shortest :
    (intervalOf value).Contains (gridNumber (shortest value).1 (shortest value).2) := by
  obtain ⟨-, lower, upper⟩ := intervalOf_around notZero
  exact contains_coarsest (exists_closest? (by omega) lower upper)

/-- The shortest digits of a number are rounded to it. -/
theorem roundsTo_shortest (finite : isFinite value = true) :
    RoundsTo (gridNumber (shortest value).1 (shortest value).2) (sizeBits value) :=
  (contains_shortest notZero).roundsTo finite

theorem shortest_pos : 0 < (shortest value).1 := by
  have inside := contains_shortest notZero
  obtain ⟨positive, -⟩ := intervalOf_around notZero
  have lower : (intervalOf value).quarters (intervalOf value).lower ≤
      gridNumber (shortest value).1 (shortest value).2 := by
    unfold Interval.Contains at inside
    split at inside
    · exact inside.1
    · exact inside.1.le
  have quarters : 0 < (intervalOf value).quarters (intervalOf value).lower :=
    mul_pos (Nat.cast_pos.mpr positive) (zpow_pos two_pos _)
  refine Nat.pos_of_ne_zero fun zero => ?_
  rw [zero, gridNumber, Nat.cast_zero, zero_mul] at lower
  exact absurd quarters lower.not_gt

end SpokenForm.Decimal
