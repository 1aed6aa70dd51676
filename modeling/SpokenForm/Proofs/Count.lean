import Mathlib.Algebra.BigOperators.Group.List.Basic
import Mathlib.Data.Nat.Factorial.Basic
import SpokenForm.Count

/-! Counts against exact numbers. A count is the exact number cut off at the largest count, and below
the largest count it divides as the exact number does. -/
namespace SpokenForm.Count

open Nat

theorem saturate_eq (n : Nat) : saturate n = min n largest := rfl

theorem saturate_pos {n : Nat} (positive : 0 < n) : 0 < saturate n :=
  Nat.lt_min.mpr ⟨positive, by decide⟩

theorem saturate_mono {a b : Nat} (less : a ≤ b) : saturate a ≤ saturate b := by
  rw [saturate_eq, saturate_eq]
  omega

theorem le_of_saturate_lt {n bound : Nat} (below : saturate n ≤ bound) (small : bound < largest) :
    n ≤ bound := by
  rw [saturate_eq] at below
  omega

/-- Cutting off a factor first changes nothing: it is cut off only where the product is. -/
theorem saturate_mul_saturate (a b : Nat) : saturate (a * saturate b) = saturate (a * b) := by
  by_cases small : b ≤ largest
  · rw [saturate_of_le small]
  · have cut : saturate b = largest := Nat.min_eq_right (by omega)
    rcases Nat.eq_zero_or_pos a with rfl | positive
    · simp
    · have reached : largest ≤ a * largest := Nat.le_mul_of_pos_left largest positive
      have factor : b ≤ a * b := Nat.le_mul_of_pos_left b positive
      rw [cut, saturate_eq, saturate_eq]
      omega

theorem saturate_saturate_mul (a b : Nat) : saturate (saturate a * b) = saturate (a * b) := by
  rw [Nat.mul_comm, saturate_mul_saturate, Nat.mul_comm]

theorem times_saturate (a b : Nat) : times (saturate a) (saturate b) = saturate (a * b) := by
  rw [times, saturate_mul_saturate, saturate_saturate_mul]

theorem factorial_eq (n : Nat) : factorial n = saturate n ! := by
  induction n with
  | zero => rfl
  | succ n ih =>
    rw [factorial_succ, ih, times, saturate_saturate_mul, Nat.factorial_succ, Nat.mul_comm]

theorem product_eq (counts : List Nat) : product (counts.map saturate) = saturate counts.prod := by
  have general (start : Nat) : (counts.map saturate).foldl times (saturate start) =
      saturate (start * counts.prod) := by
    induction counts generalizing start with
    | nil => simp
    | cons count counts ih =>
      simp [times_saturate, ih, Nat.mul_assoc]
  simpa [product, saturate_of_le (show 1 ≤ largest by decide)] using general 1

/-- Cutting off at every factor is cutting off the whole product. -/
theorem product_eq_saturate_prod (counts : List Nat) : product counts = saturate counts.prod := by
  have general (start : Nat) : counts.foldl times (saturate start) = saturate (start * counts.prod) := by
    induction counts generalizing start with
    | nil => simp
    | cons count counts ih =>
      have step : times (saturate start) count = saturate (start * count) :=
        saturate_saturate_mul start count
      rw [List.foldl_cons, step, ih, List.prod_cons, Nat.mul_assoc]
  simpa [product, saturate_of_le (show 1 ≤ largest by decide)] using general 1

theorem div_saturate {index : Nat} (small : index < largest) (n : Nat) :
    index / saturate n = index / n := by
  by_cases fits : n ≤ largest
  · rw [saturate_of_le fits]
  · have cut : saturate n = largest := Nat.min_eq_right (by omega)
    rw [cut, Nat.div_eq_of_lt small, Nat.div_eq_of_lt (by omega)]

theorem mod_saturate {index : Nat} (small : index < largest) (n : Nat) :
    index % saturate n = index % n := by
  by_cases fits : n ≤ largest
  · rw [saturate_of_le fits]
  · have cut : saturate n = largest := Nat.min_eq_right (by omega)
    rw [cut, Nat.mod_eq_of_lt small, Nat.mod_eq_of_lt (by omega)]

end SpokenForm.Count
