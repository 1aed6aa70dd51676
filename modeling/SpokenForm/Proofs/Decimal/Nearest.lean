import Mathlib.Algebra.Order.Field.Power
import Mathlib.Data.Rat.Cast.Order
import Mathlib.Tactic.Linarith
import Mathlib.Tactic.Ring
import SpokenForm.Decimal

/-! Sizes of floating-point numbers. Numbers in the interval of a floating-point number are rounded to
it: no other one is nearer, and of two that are equally near it is the even one. -/
namespace SpokenForm.Decimal

def sizeBits (value : Float) : Nat := value.toBits.toNat % 0x8000000000000000

/-- The bits behind those of the largest finite number. -/
def infinity : Nat := 0x7FF * hiddenBit

def significand (bits : Nat) : Nat :=
  if exponentOf bits = 0 then significandOf bits else significandOf bits + hiddenBit

def binaryExponent (bits : Nat) : Int := (max (exponentOf bits) 1 : Nat) - 1075

/-- The distance to the next larger size. -/
def ulp (bits : Nat) : ℚ := 2 ^ binaryExponent bits

/-- The size that bits stand for. Infinity counts as the size that would come next. -/
def size (bits : Nat) : ℚ := significand bits * ulp bits

/-- A number is rounded to a finite size: all others are further away, or as far and the size is even. -/
structure RoundsTo (number : ℚ) (bits : Nat) : Prop where
  finite : bits < infinity
  nearest : ∀ other ≤ infinity, other ≠ bits → |number - size bits| < |number - size other| ∨
    (|number - size bits| = |number - size other| ∧ Even bits)

variable {bits other : Nat} {number : ℚ}

theorem ulp_pos : 0 < ulp bits := zpow_pos two_pos _

theorem significand_eq (bits : Nat) :
    significand bits = significandOf bits + hiddenBit * min (exponentOf bits) 1 := by
  unfold significand
  split
  · rename_i zero
    rw [zero, Nat.zero_min, Nat.mul_zero, Nat.add_zero]
  · rename_i normal
    rw [Nat.min_eq_right (Nat.one_le_iff_ne_zero.mpr normal), Nat.mul_one]

/-- The first size with an exponent above the least one: the sizes below it lie closer together. -/
def IsFirst (bits : Nat) : Prop := significandOf bits = 0 ∧ 1 < exponentOf bits

/-- What comes next has the next significand, or half of it and the next exponent. -/
theorem succ_cases (finite : bits < infinity) :
    (¬ IsFirst (bits + 1) ∧ significand (bits + 1) = significand bits + 1 ∧
      binaryExponent (bits + 1) = binaryExponent bits) ∨
    (IsFirst (bits + 1) ∧ 2 * significand (bits + 1) = significand bits + 1 ∧
      binaryExponent (bits + 1) = binaryExponent bits + 1) := by
  simp only [IsFirst, significand_eq, binaryExponent, exponentOf, significandOf, hiddenBit,
    infinity] at finite ⊢
  omega

theorem size_succ (finite : bits < infinity) : size (bits + 1) = size bits + ulp bits := by
  rcases succ_cases finite with ⟨-, next, same⟩ | ⟨-, half, double⟩
  · rw [size, size, ulp, ulp, next, same]
    push_cast
    ring
  · have twice : (significand bits : ℚ) = 2 * significand (bits + 1) - 1 := by
      rw [eq_sub_iff_add_eq]
      exact_mod_cast half.symm
    rw [size, size, ulp, ulp, double, twice, zpow_add_one₀ two_ne_zero]
    ring

theorem size_add_ulp_le (less : bits < other) (bounded : other ≤ infinity) :
    size bits + ulp bits ≤ size other := by
  induction other, less using Nat.le_induction with
  | base => exact (size_succ bounded).ge
  | succ other less ih =>
    rw [size_succ bounded]
    exact (ih (by omega)).trans (le_add_of_nonneg_right ulp_pos.le)

theorem size_lt_size (less : bits < other) (bounded : other ≤ infinity) : size bits < size other :=
  (lt_add_of_pos_right _ ulp_pos).trans_le (size_add_ulp_le less bounded)

/-! Of two sizes the one is nearer that a number is on the side of. -/

section Middle

variable {near far : ℚ}

theorem abs_sub_lt_of_middle_above (less : near < far) (side : number + number < near + far) :
    |number - near| < |number - far| := by
  rw [abs_lt, abs_of_neg (by linarith)]
  constructor <;> linarith

theorem abs_sub_lt_of_middle_below (less : far < near) (side : far + near < number + number) :
    |number - near| < |number - far| := by
  rw [abs_lt, abs_of_pos (by linarith)]
  constructor <;> linarith

theorem abs_sub_eq_of_middle (middle : number + number = near + far) :
    |number - near| = |number - far| := by
  rw [show number - near = -(number - far) by linarith, abs_neg]

end Middle

/-- A number that is no further away than half of the way to the neighbours of a size, with the ends
only if the size is even, is rounded to it. -/
theorem roundsTo_of_between (finite : bits < infinity)
    (above : number + number < size bits + size bits + ulp bits ∨
      (number + number = size bits + size bits + ulp bits ∧ Even bits))
    (below : ∀ before, bits = before + 1 → size before + size bits < number + number ∨
      (size before + size bits = number + number ∧ Even bits)) : RoundsTo number bits := by
  refine ⟨finite, fun other bounded different => ?_⟩
  rcases lt_or_gt_of_ne different with less | greater
  · obtain ⟨before, rfl⟩ := Nat.exists_eq_succ_of_ne_zero (Nat.ne_zero_of_lt less)
    have lower : size other ≤ size before := by
      rcases Nat.lt_succ_iff_lt_or_eq.mp less with earlier | rfl
      · exact (size_lt_size earlier (by omega)).le
      · exact le_rfl
    have step : size before < size (before + 1) := size_lt_size (Nat.lt_succ_self before) finite.le
    rcases below before rfl with inside | ⟨middle, even⟩
    · exact .inl (abs_sub_lt_of_middle_below (by linarith) (by linarith))
    · rcases lower.lt_or_eq with further | same
      · exact .inl (abs_sub_lt_of_middle_below (by linarith) (by linarith))
      · exact .inr ⟨abs_sub_eq_of_middle (by linarith), even⟩
  · have upper := size_add_ulp_le greater bounded
    have positive : 0 < ulp bits := ulp_pos
    rcases above with inside | ⟨middle, even⟩
    · exact .inl (abs_sub_lt_of_middle_above (by linarith) (by linarith))
    · rcases upper.lt_or_eq with further | same
      · exact .inl (abs_sub_lt_of_middle_above (by linarith) (by linarith))
      · exact .inr ⟨abs_sub_eq_of_middle (by linarith), even⟩

/-- A size is rounded to itself. -/
theorem roundsTo_size (finite : bits < infinity) : RoundsTo (size bits) bits := by
  have positive : 0 < ulp bits := ulp_pos
  refine roundsTo_of_between finite (.inl (by linarith)) ?_
  rintro before rfl
  have step : size before < size (before + 1) := size_lt_size (Nat.lt_succ_self before) finite.le
  exact .inl (by linarith)

/-! Intervals. -/

/-- The number that so many quarters of a unit make. -/
def Interval.quarters (interval : Interval) (count : Nat) : ℚ := count * 2 ^ interval.exponent

def Interval.Contains (interval : Interval) (number : ℚ) : Prop :=
  if interval.closed then
    interval.quarters interval.lower ≤ number ∧ number ≤ interval.quarters interval.upper
  else interval.quarters interval.lower < number ∧ number < interval.quarters interval.upper

variable {value : Float}

theorem exponentOf_sizeBits : exponentOf value.toBits.toNat = exponentOf (sizeBits value) := by
  simp only [exponentOf, sizeBits, hiddenBit]
  omega

theorem significandOf_sizeBits : significandOf value.toBits.toNat = significandOf (sizeBits value) := by
  simp only [significandOf, sizeBits, hiddenBit]
  omega

theorem sizeBits_lt_infinity (finite : isFinite value = true) : sizeBits value < infinity := by
  have notLargest : exponentOf (sizeBits value) ≠ 0x7FF := by
    simpa [isFinite, exponentOf_sizeBits] using finite
  have signless : sizeBits value < 0x8000000000000000 := Nat.mod_lt _ (by omega)
  simp only [exponentOf, infinity, hiddenBit] at notLargest ⊢
  omega

theorem intervalOf_value : (intervalOf value).value = 4 * significand (sizeBits value) := by
  simp only [intervalOf, significand, exponentOf_sizeBits, significandOf_sizeBits]

theorem intervalOf_exponent : (intervalOf value).exponent = binaryExponent (sizeBits value) - 2 := by
  simp only [intervalOf, binaryExponent, exponentOf_sizeBits]
  omega

theorem intervalOf_upper (value : Float) : (intervalOf value).upper = 4 * significand (sizeBits value) + 2 := by
  simp only [intervalOf, significand, exponentOf_sizeBits, significandOf_sizeBits]

theorem even_of_closed (closed : (intervalOf value).closed = true) : Even (sizeBits value) := by
  rw [Nat.even_iff]
  simp only [intervalOf, exponentOf_sizeBits, significandOf_sizeBits, decide_eq_true_eq] at closed
  simp only [significandOf, hiddenBit] at closed
  split at closed <;> omega

theorem intervalOf_lower (value : Float) :
    (IsFirst (sizeBits value) ∧ (intervalOf value).lower = 4 * significand (sizeBits value) - 1) ∨
    (¬ IsFirst (sizeBits value) ∧
      (intervalOf value).lower = 4 * significand (sizeBits value) - 2) := by
  rw [intervalOf, exponentOf_sizeBits, significandOf_sizeBits, IsFirst]
  by_cases first : significandOf (sizeBits value) = 0 ∧ 1 < exponentOf (sizeBits value)
  · exact .inl ⟨first, by simp [significand, first]⟩
  · exact .inr ⟨first, by simp [significand, first]⟩

/-- The lower end is in the middle between a size and the one before it. -/
theorem lower_cases {before : Nat} (finite : before < infinity) (next : sizeBits value = before + 1) :
    ((intervalOf value).lower + 2 = 4 * (significand before + 1) ∧
      binaryExponent (before + 1) = binaryExponent before) ∨
    ((intervalOf value).lower + 1 = 2 * (significand before + 1) ∧
      binaryExponent (before + 1) = binaryExponent before + 1) := by
  have lower := intervalOf_lower value
  rw [next] at lower
  rcases succ_cases finite with ⟨notFirst, one, same⟩ | ⟨first, half, double⟩
  · obtain ⟨first, -⟩ | ⟨-, two⟩ := lower
    · exact absurd first notFirst
    · exact .inl ⟨by omega, same⟩
  · obtain ⟨-, quarter⟩ | ⟨notFirst, -⟩ := lower
    · exact .inr ⟨by omega, double⟩
    · exact absurd first notFirst

theorem quarters_eq (count : Nat) :
    (intervalOf value).quarters count = count * ulp (sizeBits value) / 4 := by
  rw [Interval.quarters, intervalOf_exponent, ulp, zpow_sub₀ two_ne_zero]
  norm_num
  ring

theorem quarters_upper (value : Float) : (intervalOf value).quarters (intervalOf value).upper +
    (intervalOf value).quarters (intervalOf value).upper =
      size (sizeBits value) + size (sizeBits value) + ulp (sizeBits value) := by
  rw [quarters_eq, intervalOf_upper, size]
  push_cast
  ring

theorem quarters_lower {before : Nat} (finite : before < infinity) (next : sizeBits value = before + 1) :
    (intervalOf value).quarters (intervalOf value).lower +
      (intervalOf value).quarters (intervalOf value).lower = size before + size (sizeBits value) := by
  rw [quarters_eq, next, size_succ finite, size]
  rcases lower_cases finite next with ⟨middle, same⟩ | ⟨middle, double⟩
  · have quarters : ((intervalOf value).lower : ℚ) = 4 * (significand before + 1) - 2 := by
      rw [eq_sub_iff_add_eq]
      exact_mod_cast middle
    rw [ulp, ulp, same, quarters]
    ring
  · have quarters : ((intervalOf value).lower : ℚ) = 2 * (significand before + 1) - 1 := by
      rw [eq_sub_iff_add_eq]
      exact_mod_cast middle
    rw [ulp, ulp, double, quarters, zpow_add_one₀ two_ne_zero]
    ring

/-- A number in the interval of a floating-point number is rounded to it. -/
theorem Interval.Contains.roundsTo (finite : isFinite value = true)
    (inside : (intervalOf value).Contains number) : RoundsTo number (sizeBits value) := by
  have bounded := sizeBits_lt_infinity finite
  have upper := quarters_upper value
  unfold Contains at inside
  split at inside
  · rename_i closed
    have even := even_of_closed closed
    refine roundsTo_of_between bounded ?_ fun before next => ?_
    · rcases inside.2.lt_or_eq with less | same
      · exact .inl (by linarith)
      · exact .inr ⟨by linarith, even⟩
    · have lower := quarters_lower (by omega) next
      rcases inside.1.lt_or_eq with less | same
      · exact .inl (by linarith)
      · exact .inr ⟨by linarith, even⟩
  · refine roundsTo_of_between bounded (.inl (by linarith)) fun before next => ?_
    have lower := quarters_lower (by omega) next
    exact .inl (by linarith)

/-- The ends of the interval of a number that is not zero are on both sides of it. -/
theorem intervalOf_around (notZero : (intervalOf value).value ≠ 0) :
    0 < (intervalOf value).lower ∧ (intervalOf value).lower < (intervalOf value).value ∧
      (intervalOf value).value < (intervalOf value).upper := by
  have upper := intervalOf_upper value
  rw [intervalOf_value] at notZero ⊢
  rcases intervalOf_lower value with ⟨-, lower⟩ | ⟨-, lower⟩ <;> omega

end SpokenForm.Decimal
