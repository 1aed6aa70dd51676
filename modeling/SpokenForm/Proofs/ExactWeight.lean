import Mathlib.Algebra.Order.Ring.Rat
import SpokenForm.Weight

/-! Weights as exact numbers: sums are not rounded, and the rank is the order of numbers. -/
namespace SpokenForm.WeightScale

/-- Rational numbers are an exact scale. -/
instance exact : WeightScale ℚ where
  zero := 0
  add a b := a + b
  sub a b := a - b
  ranksBefore a b := a ≤ b

@[simp] theorem zero_exact : (WeightScale.zero : ℚ) = 0 := rfl

@[simp] theorem add_exact (a b : ℚ) : WeightScale.add a b = a + b := rfl

@[simp] theorem sub_exact (a b : ℚ) : WeightScale.sub a b = a - b := rfl

@[simp] theorem ranksBefore_exact (a b : ℚ) : WeightScale.ranksBefore a b = decide (a ≤ b) := rfl

end SpokenForm.WeightScale
