import Mathlib.Algebra.Order.Field.Rat
import SpokenForm.Proofs.Alignment.LongestCommon
import SpokenForm.Similarity

/-! The likeness of two texts as a rational number. It depends on the characters that an alignment keeps
only by their number, which is the same in both directions although the steps are not. -/
namespace SpokenForm

def Fraction.value (fraction : Fraction) : ℚ := fraction.numerator / fraction.denominator

theorem Fraction.isLess_iff {first second : Fraction} (firstPositive : 0 < first.denominator)
    (secondPositive : 0 < second.denominator) :
    first.isLess second = true ↔ first.value < second.value := by
  have below : (0 : ℚ) < first.denominator := by exact_mod_cast firstPositive
  have alsoBelow : (0 : ℚ) < second.denominator := by exact_mod_cast secondPositive
  rw [value, value, div_lt_div_iff₀ below alsoBelow, isLess, decide_eq_true_iff]
  norm_cast

theorem Fraction.value_nonneg (fraction : Fraction) : 0 ≤ fraction.value :=
  div_nonneg (Nat.cast_nonneg _) (Nat.cast_nonneg _)

section

variable {fraction : Fraction} (positive : 0 < fraction.denominator)
include positive

theorem Fraction.value_le_one_iff :
    fraction.value ≤ 1 ↔ fraction.numerator ≤ fraction.denominator := by
  rw [value, div_le_one₀ (by exact_mod_cast positive), Nat.cast_le]

theorem Fraction.value_eq_one_iff :
    fraction.value = 1 ↔ fraction.numerator = fraction.denominator := by
  rw [value, div_eq_one_iff_eq (by exact_mod_cast positive.ne'), Nat.cast_inj]

theorem Fraction.value_eq_zero_iff : fraction.value = 0 ↔ fraction.numerator = 0 := by
  rw [value, div_eq_zero_iff, Nat.cast_eq_zero, Nat.cast_eq_zero, or_iff_left positive.ne']

end

namespace Alignment

variable {α : Type} {as bs : List α} {edits : List Edit}

theorem sharedLengths_comm (part : List α → List α → Prop) (as bs : List α) :
    sharedLengths part as bs = sharedLengths part bs as := by
  ext length
  constructor <;>
    · rintro ⟨shared, first, second, same⟩
      exact ⟨shared, second, first, same⟩

theorem Script.count_le (script : Script as bs edits) :
    edits.count .equal ≤ as.length ∧ edits.count .equal ≤ bs.length := by
  obtain ⟨shared, first, second, same⟩ := script.count_mem_sharedLengths
  exact same ▸ ⟨first.length_le, second.length_le⟩

/-- Steps that keep every element of both sequences lead from a sequence to itself. -/
theorem Script.eq_of_count (script : Script as bs edits) (keepsFirst : edits.count .equal = as.length)
    (keepsSecond : edits.count .equal = bs.length) : as = bs := by
  obtain ⟨shared, first, second, same⟩ := script.count_mem_sharedLengths
  rw [← first.eq_of_length (same.trans keepsFirst), ← second.eq_of_length (same.trans keepsSecond)]

variable [DecidableEq α]

theorem commonLength_comm (as bs : List α) : commonLength as bs = commonLength bs as := by
  have greatest := isGreatest_commonLength as bs
  rw [sharedLengths_comm] at greatest
  exact greatest.unique (isGreatest_commonLength bs as)

theorem commonPrefix_comm (as bs : List α) : commonPrefix as bs = commonPrefix bs as := by
  have greatest := isGreatest_commonPrefix as bs
  rw [sharedLengths_comm] at greatest
  exact greatest.unique (isGreatest_commonPrefix bs as)

theorem commonLength_eq_zero_iff : commonLength as bs = 0 ↔ ∀ a ∈ as, a ∉ bs := by
  constructor
  · intro nothing a first second
    have kept := length_le_commonLength (List.singleton_sublist.mpr first)
      (List.singleton_sublist.mpr second)
    simp [nothing] at kept
  · intro apart
    obtain ⟨shared, first, second, length⟩ := exists_common_sublist as bs
    rw [← length, List.length_eq_zero_iff, List.eq_nil_iff_forall_not_mem]
    exact fun a member => apart a (first.mem member) (second.mem member)

/-! The number of elements that an alignment keeps. -/

theorem count_align_comm (as bs : List α) :
    (align as bs).count .equal = (align bs as).count .equal := by
  by_cases beyond : tableLimit < as.length ∨ tableLimit < bs.length
  · rw [align, align, if_pos beyond, if_pos beyond.symm, count_byEnds, count_byEnds,
      commonPrefix_comm bs as, commonPrefix_comm (List.drop _ bs).reverse]
  · have alsoInside : ¬ (tableLimit < bs.length ∨ tableLimit < as.length) := fun or => beyond or.symm
    rw [align, align, if_neg beyond, if_neg alsoInside, count_byTable, count_byTable,
      commonLength_comm]

theorem count_align_self (as : List α) : (align as as).count .equal = as.length := by
  refine Nat.le_antisymm (script_align as as).count_le.1 ?_
  unfold align
  split
  · rw [count_byEnds]
    exact Nat.le_add_right_of_le (length_le_commonPrefix List.prefix_rfl List.prefix_rfl)
  · rw [count_byTable]
    exact length_le_commonLength (.refl as) (.refl as)

theorem count_align_of_le (firstFits : as.length ≤ tableLimit) (secondFits : bs.length ≤ tableLimit) :
    (align as bs).count .equal = commonLength as bs := by
  have inside : ¬ (tableLimit < as.length ∨ tableLimit < bs.length) := by omega
  rw [align, if_neg inside, count_byTable]

end Alignment

namespace Similarity

open SpokenForm.Alignment

variable {a b : Text}

/-- Empty texts are alike by decree; of others, the characters that are kept count twice. -/
theorem ratio_cases (a b : Text) :
    (a = [] ∧ b = [] ∧ ratio a b = ⟨1, 1⟩) ∨
      (0 < a.length + b.length ∧
        ratio a b = ⟨2 * (align a b).count .equal, a.length + b.length⟩) := by
  unfold ratio
  split
  · rename_i empty
    simp only [Bool.and_eq_true, List.isEmpty_iff] at empty
    exact .inl ⟨empty.1, empty.2, rfl⟩
  · rename_i something
    refine .inr ⟨?_, rfl⟩
    rw [Nat.pos_iff_ne_zero]
    intro none
    obtain ⟨noneOfFirst, noneOfSecond⟩ := Nat.add_eq_zero_iff.mp none
    simp [List.length_eq_zero_iff.mp noneOfFirst, List.length_eq_zero_iff.mp noneOfSecond]
      at something

theorem denominator_pos (a b : Text) : 0 < (ratio a b).denominator := by
  rcases ratio_cases a b with ⟨-, -, same⟩ | ⟨positive, same⟩
  · rw [same]
    exact Nat.one_pos
  · rw [same]
    exact positive

theorem ratio_comm (a b : Text) : ratio a b = ratio b a := by
  rw [ratio, ratio, count_align_comm, Nat.add_comm, Bool.and_comm]

theorem numerator_le (a b : Text) : (ratio a b).numerator ≤ (ratio a b).denominator := by
  rcases ratio_cases a b with ⟨-, -, same⟩ | ⟨-, same⟩
  · rw [same]
  · obtain ⟨first, second⟩ := (script_align a b).count_le
    simp only [same]
    omega

theorem numerator_eq_iff (a b : Text) :
    (ratio a b).numerator = (ratio a b).denominator ↔ a = b := by
  rcases ratio_cases a b with ⟨rfl, rfl, same⟩ | ⟨-, same⟩
  · simp [same]
  · rw [same]
    constructor
    · intro all
      obtain ⟨first, second⟩ := (script_align a b).count_le
      have whole : 2 * (align a b).count .equal = a.length + b.length := all
      exact (script_align a b).eq_of_count (by omega) (by omega)
    · rintro rfl
      show 2 * (align a a).count .equal = a.length + a.length
      rw [count_align_self]
      omega

theorem numerator_eq_zero_iff (firstFits : a.length ≤ tableLimit) (secondFits : b.length ≤ tableLimit) :
    (ratio a b).numerator = 0 ↔ ¬ (a = [] ∧ b = []) ∧ ∀ c ∈ a, c ∉ b := by
  rcases ratio_cases a b with ⟨rfl, rfl, same⟩ | ⟨positive, same⟩
  · simp [same]
  · have something : ¬ (a = [] ∧ b = []) := by
      rintro ⟨rfl, rfl⟩
      exact Nat.lt_irrefl 0 positive
    rw [same, ← commonLength_eq_zero_iff, ← count_align_of_le firstFits secondFits]
    simp [something]

/-- The likeness of two texts is the same in both directions. It is at least zero and at most one, and
one just for equal texts. While a table is used, it is zero just for texts without a common character,
unless both are empty. -/
theorem ratio_symmetric_between_zero_and_one (a b : Text) :
    (ratio a b).value = (ratio b a).value ∧ 0 ≤ (ratio a b).value ∧ (ratio a b).value ≤ 1 ∧
    ((ratio a b).value = 1 ↔ a = b) ∧
    (a.length ≤ 2048 → b.length ≤ 2048 →
      ((ratio a b).value = 0 ↔ ¬ (a = [] ∧ b = []) ∧ ∀ c ∈ a, c ∉ b)) := by
  have positive := denominator_pos a b
  refine ⟨by rw [ratio_comm], Fraction.value_nonneg _, ?_, ?_, fun firstFits secondFits => ?_⟩
  · exact (Fraction.value_le_one_iff positive).mpr (numerator_le a b)
  · rw [Fraction.value_eq_one_iff positive, numerator_eq_iff]
  · rw [Fraction.value_eq_zero_iff positive, numerator_eq_zero_iff firstFits secondFits]

/-- Texts that share three of five letters, and texts that share none. -/
theorem ratio_symmetric_between_zero_and_one_letters :
    (ratio "abcde".toList "axcye".toList).value = (ratio "axcye".toList "abcde".toList).value ∧
    (ratio "abc".toList "xyz".toList).value = 0 := by
  obtain ⟨same, -⟩ := ratio_symmetric_between_zero_and_one "abcde".toList "axcye".toList
  obtain ⟨-, -, -, -, none⟩ := ratio_symmetric_between_zero_and_one "abc".toList "xyz".toList
  have apart : ∀ c ∈ "abc".toList, c ∉ "xyz".toList := by simp
  exact ⟨same, (none (by decide) (by decide)).mpr ⟨by simp, apart⟩⟩

end Similarity

end SpokenForm
