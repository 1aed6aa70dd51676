import Mathlib.Data.Nat.Bitwise
import Mathlib.Order.Monotone.Basic
import Mathlib.Tactic.Ring
import SpokenForm.Weight

/-! The total order of weights (IEEE 754, totalOrder): first by sign, so that a negative zero comes before
a positive one, then by size, with infinity above all numbers and undefined values above infinity. Ranks
are places in this order, and no two weights share one. -/
namespace SpokenForm.Weight

variable {a b : Weight}

/-! Sign and magnitude are all there is to a weight. -/

theorem magnitude_eq (w : Weight) : w.magnitude = w.bits.toNat % 0x80000000 := by
  rw [magnitude, UInt32.toNat_and]
  exact Nat.and_two_pow_sub_one_eq_mod w.bits.toNat 31

theorem isNegative_iff (w : Weight) : w.isNegative = true ↔ 0x80000000 ≤ w.bits.toNat := by
  have bound := w.bits.toNat_lt
  have signBit : (w.bits &&& 0x80000000).toNat = w.bits.toNat / 0x80000000 * 0x80000000 := by
    have single : w.bits.toNat / 0x80000000 % 2 = w.bits.toNat / 0x80000000 := by omega
    rw [UInt32.toNat_and]
    refine (Nat.and_two_pow w.bits.toNat 31).trans ?_
    rw [Nat.toNat_testBit]
    exact congrArg (· * 0x80000000) single
  rw [isNegative, bne_iff_ne, ne_eq, ← UInt32.toNat_inj, signBit, UInt32.toNat_zero]
  omega

theorem eq_of_parts (sign : a.isNegative = b.isNegative) (magnitude : a.magnitude = b.magnitude) :
    a = b := by
  have half : 0x80000000 ≤ a.bits.toNat ↔ 0x80000000 ≤ b.bits.toNat := by
    rw [← isNegative_iff, ← isNegative_iff, sign]
  have boundFirst := a.bits.toNat_lt
  have boundOther := b.bits.toNat_lt
  rw [magnitude_eq, magnitude_eq] at magnitude
  have bits : a.bits = b.bits := UInt32.toNat_inj.mp (by omega)
  obtain ⟨first⟩ := a
  obtain ⟨other⟩ := b
  exact congrArg Weight.mk bits

theorem rank_of_positive (positive : a.isNegative = false) : a.rank = a.magnitude := by
  simp [rank, positive]

theorem rank_of_negative (negative : a.isNegative = true) : a.rank = -1 - (a.magnitude : Int) :=
  if_pos negative

theorem rank_neg_iff : a.rank < 0 ↔ a.isNegative = true := by
  cases sign : a.isNegative with
  | true =>
    rw [rank_of_negative sign]
    exact iff_of_true (by omega) rfl
  | false =>
    rw [rank_of_positive sign]
    exact iff_of_false (by omega) Bool.false_ne_true

theorem rank_injective : Function.Injective rank := by
  intro a b same
  have sign : a.isNegative = b.isNegative := by
    rw [Bool.eq_iff_iff, ← rank_neg_iff, ← rank_neg_iff, same]
  apply eq_of_parts sign
  rw [rank, rank, sign] at same
  split at same
  · omega
  · omega

/-! Numbers by size. -/

/-- The size of a number by its magnitude, in units of the smallest number. -/
def size (magnitude : Nat) : Nat :=
  if magnitude < 0x800000 then magnitude
  else (0x800000 + magnitude % 0x800000) * 2 ^ (magnitude / 0x800000 - 1)

theorem size_of_small {magnitude : Nat} (small : magnitude < 0x800000) : size magnitude = magnitude :=
  if_pos small

theorem size_of_exponent {exponent mantissa : Nat} (inside : mantissa < 0x800000) :
    size ((exponent + 1) * 0x800000 + mantissa) = (0x800000 + mantissa) * 2 ^ exponent := by
  have large : ¬ (exponent + 1) * 0x800000 + mantissa < 0x800000 := by omega
  have remainder : ((exponent + 1) * 0x800000 + mantissa) % 0x800000 = mantissa := by omega
  have quotient : ((exponent + 1) * 0x800000 + mantissa) / 0x800000 = exponent + 1 := by omega
  rw [size, if_neg large, remainder, quotient, Nat.add_sub_cancel]

theorem strictMono_size : StrictMono size := by
  apply strictMono_nat_of_lt_succ
  intro magnitude
  by_cases small : magnitude + 1 < 0x800000
  · rw [size_of_small small, size_of_small (by omega)]
    omega
  · by_cases least : magnitude + 1 = 0x800000
    · have last : magnitude = 0x7FFFFF := by omega
      subst last
      decide
    · obtain ⟨exponent, mantissa, inside, rfl⟩ : ∃ exponent mantissa, mantissa < 0x800000 ∧
          magnitude = (exponent + 1) * 0x800000 + mantissa :=
        ⟨magnitude / 0x800000 - 1, magnitude % 0x800000, by omega, by omega⟩
      have power : 0 < 2 ^ exponent := Nat.pow_pos (by decide)
      rw [size_of_exponent inside]
      by_cases within : mantissa + 1 < 0x800000
      · have next : size ((exponent + 1) * 0x800000 + (mantissa + 1)) =
            (0x800000 + (mantissa + 1)) * 2 ^ exponent := size_of_exponent within
        rw [Nat.add_assoc, next]
        exact Nat.mul_lt_mul_of_pos_right (by omega) power
      · have carried : (exponent + 1) * 0x800000 + mantissa + 1 =
            (exponent + 1 + 1) * 0x800000 + 0 := by omega
        rw [carried, size_of_exponent (by decide)]
        calc (0x800000 + mantissa) * 2 ^ exponent
            < 0x1000000 * 2 ^ exponent := Nat.mul_lt_mul_of_pos_right (by omega) power
          _ = (0x800000 + 0) * 2 ^ (exponent + 1) := by ring

/-! The order itself. -/

def IsFinite (w : Weight) : Prop := w.magnitude < infinite.magnitude

/-- Whether a weight is smaller than another, whatever their signs: numbers by size, infinity above them,
undefined values above infinity, by what they carry. -/
inductive Smaller (a b : Weight) : Prop where
  | number (finite : a.IsFinite) (finiteOther : b.IsFinite)
      (less : size a.magnitude < size b.magnitude) : Smaller a b
  | infinity (finite : a.IsFinite) (infiniteOther : b.magnitude = infinite.magnitude) : Smaller a b
  | undefinedOnly (defined : a.isNaN = false) (undefinedOther : b.isNaN = true) : Smaller a b
  | carried (undefinedFirst : a.isNaN = true) (undefinedOther : b.isNaN = true)
      (less : a.magnitude < b.magnitude) : Smaller a b

/-- The total order: negative weights come before positive ones, and the smaller of two negative weights
comes last. -/
inductive Below (a b : Weight) : Prop where
  | signs (negative : a.isNegative = true) (positive : b.isNegative = false) : Below a b
  | positive (positiveFirst : a.isNegative = false) (positiveOther : b.isNegative = false)
      (smaller : Smaller a b) : Below a b
  | negative (negativeFirst : a.isNegative = true) (negativeOther : b.isNegative = true)
      (smaller : Smaller b a) : Below a b

theorem smaller_iff : Smaller a b ↔ a.magnitude < b.magnitude := by
  have limit : infinite.magnitude = 0x7F800000 := by decide
  constructor
  · intro smaller
    cases smaller with
    | number _ _ less => exact strictMono_size.lt_iff_lt.mp less
    | infinity finite infiniteOther =>
      rw [infiniteOther]
      exact finite
    | undefinedOnly defined undefinedOther =>
      simp only [isNaN, decide_eq_true_eq, decide_eq_false_iff_not] at defined undefinedOther
      omega
    | carried _ _ less => exact less
  · intro less
    by_cases undefinedOther : b.isNaN = true
    · cases defined : a.isNaN with
      | false => exact .undefinedOnly defined undefinedOther
      | true => exact .carried defined undefinedOther less
    · simp only [isNaN, decide_eq_true_eq] at undefinedOther
      by_cases infiniteOther : b.magnitude = infinite.magnitude
      · have finite : a.IsFinite := by
          rw [IsFinite, ← infiniteOther]
          exact less
        exact .infinity finite infiniteOther
      · have finiteOther : b.IsFinite := by
          rw [IsFinite]
          omega
        exact .number (less.trans finiteOther) finiteOther (strictMono_size less)

/-- Ranks are places in the total order. -/
theorem below_iff : Below a b ↔ a.rank < b.rank := by
  constructor
  · intro below
    cases below with
    | signs negative positive =>
      rw [rank_of_negative negative, rank_of_positive positive]
      omega
    | positive first other smaller =>
      have less := smaller_iff.mp smaller
      rw [rank_of_positive first, rank_of_positive other]
      omega
    | negative first other smaller =>
      have less := smaller_iff.mp smaller
      rw [rank_of_negative first, rank_of_negative other]
      omega
  · intro less
    cases first : a.isNegative with
    | true =>
      rw [rank_of_negative first] at less
      cases other : b.isNegative with
      | true =>
        rw [rank_of_negative other] at less
        exact .negative first other (smaller_iff.mpr (by omega))
      | false => exact .signs first other
    | false =>
      rw [rank_of_positive first] at less
      cases other : b.isNegative with
      | true =>
        rw [rank_of_negative other] at less
        omega
      | false =>
        rw [rank_of_positive other] at less
        exact .positive first other (smaller_iff.mpr (by omega))

end SpokenForm.Weight
