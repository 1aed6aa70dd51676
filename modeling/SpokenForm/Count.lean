/-! Counts that stay within 64 bits: what would exceed the largest count is that count. -/
namespace SpokenForm.Count

def largest : Nat := 0xFFFFFFFFFFFFFFFF

def saturate (n : Nat) : Nat := min n largest

def times (a b : Nat) : Nat := saturate (a * b)

def product (counts : List Nat) : Nat := counts.foldl times 1

/-- The number of orders of `n` things. -/
def factorial : Nat → Nat
  | 0 => 1
  | n + 1 => times (factorial n) (n + 1)

theorem factorial_succ (n : Nat) : factorial (n + 1) = times (factorial n) (n + 1) := rfl

theorem saturate_le (n : Nat) : saturate n ≤ largest := Nat.min_le_right ..

theorem saturate_of_le {n : Nat} (small : n ≤ largest) : saturate n = n := Nat.min_eq_left small

theorem times_pos {a b : Nat} (ha : 0 < a) (hb : 0 < b) : 0 < times a b :=
  Nat.lt_min.mpr ⟨Nat.mul_pos ha hb, by decide⟩

theorem factorial_pos (n : Nat) : 0 < factorial n := by
  induction n with
  | zero => decide
  | succ n ih => exact times_pos ih (Nat.succ_pos n)

end SpokenForm.Count
