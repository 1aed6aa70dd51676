import Mathlib.Order.Bounds.Basic
import SpokenForm.Proofs.Alignment.CommonLength

/-! How much an alignment keeps. Walking through the table keeps a longest common subsequence; where
the sequences are too long for a table, what is common at both ends is kept. -/
namespace SpokenForm.Alignment

variable {α : Type} {as bs : List α} {edits : List Edit}

/-- The lengths of what two sequences share as parts of one kind. -/
def sharedLengths (part : List α → List α → Prop) (as bs : List α) : Set Nat :=
  {length | ∃ shared : List α, part shared as ∧ part shared bs ∧ shared.length = length}

theorem sharedLengths_reverse (as bs : List α) :
    sharedLengths List.IsPrefix as.reverse bs.reverse = sharedLengths List.IsSuffix as bs := by
  ext length
  constructor
  · rintro ⟨shared, first, second, same⟩
    exact ⟨shared.reverse, by simpa using List.reverse_suffix.mpr first,
      by simpa using List.reverse_suffix.mpr second, by simpa using same⟩
  · rintro ⟨shared, first, second, same⟩
    exact ⟨shared.reverse, List.reverse_prefix.mpr first, List.reverse_prefix.mpr second,
      by simpa using same⟩

/-- The elements that valid steps keep are a common subsequence. -/
theorem Script.count_mem_sharedLengths (script : Script as bs edits) :
    edits.count .equal ∈ sharedLengths List.Sublist as bs := by
  induction script with
  | nil => exact ⟨[], .refl _, .refl _, rfl⟩
  | equal shared _ ih =>
    obtain ⟨kept, first, second, length⟩ := ih
    exact ⟨shared :: kept, first.cons_cons shared, second.cons_cons shared, by simp [length]⟩
  | delete dropped _ ih =>
    obtain ⟨kept, first, second, length⟩ := ih
    exact ⟨kept, first.cons dropped, second, by simpa using length⟩
  | insert added _ ih =>
    obtain ⟨kept, first, second, length⟩ := ih
    exact ⟨kept, first, second.cons added, by simpa using length⟩

variable [DecidableEq α]

/-! Steps by the table. -/

theorem isGreatest_commonLength (as bs : List α) :
    IsGreatest (sharedLengths List.Sublist as bs) (commonLength as bs) := by
  constructor
  · exact exists_common_sublist as bs
  · rintro length ⟨shared, first, second, rfl⟩
    exact length_le_commonLength first second

theorem commonLength_reverse (as bs : List α) :
    commonLength as.reverse bs.reverse = commonLength as bs := by
  have least (as bs : List α) : commonLength as bs ≤ commonLength as.reverse bs.reverse := by
    obtain ⟨shared, first, second, length⟩ := exists_common_sublist as bs
    rw [← length, ← List.length_reverse]
    exact length_le_commonLength (List.reverse_sublist.mpr first) (List.reverse_sublist.mpr second)
  apply Nat.le_antisymm
  · simpa using least as.reverse bs.reverse
  · exact least as bs

/-- Every step of the walk keeps what is left to be kept. -/
theorem count_walk (edits : List Edit) (as bs : List α) :
    (walk edits as bs).count .equal = edits.count .equal + commonLength as bs := by
  fun_induction walk edits as bs with
  | case1 edits => simp
  | case2 edits b bs ih => simpa using ih
  | case3 edits a as ih => simpa using ih
  | case4 edits as a bs ih =>
    rw [ih, List.count_cons_self, commonLength_cons_cons, if_pos rfl]
    omega
  | case5 edits a as b bs different later ih =>
    rw [ih, List.count_cons_of_ne (by decide), commonLength_cons_cons, if_neg different,
      Nat.max_eq_left later]
  | case6 edits a as b bs different earlier ih =>
    rw [ih, List.count_cons_of_ne (by decide), commonLength_cons_cons, if_neg different,
      Nat.max_eq_right (Nat.le_of_not_le earlier)]

theorem count_byTable (as bs : List α) : (byTable as bs).count .equal = commonLength as bs := by
  rw [byTable_eq_walk, count_walk, commonLength_reverse, List.count_nil, Nat.zero_add]

/-! Steps by the ends. -/

theorem length_le_commonPrefix {shared : List α} (first : shared <+: as) (second : shared <+: bs) :
    shared.length ≤ commonPrefix as bs := by
  induction shared generalizing as bs with
  | nil => exact Nat.zero_le _
  | cons c shared ih =>
    obtain ⟨restA, rfl⟩ := first
    obtain ⟨restB, rfl⟩ := second
    have shorter := ih (List.prefix_append shared restA) (List.prefix_append shared restB)
    simpa [commonPrefix] using shorter

theorem isGreatest_commonPrefix (as bs : List α) :
    IsGreatest (sharedLengths List.IsPrefix as bs) (commonPrefix as bs) := by
  constructor
  · refine ⟨as.take (commonPrefix as bs), List.take_prefix .., ?_, ?_⟩
    · rw [take_commonPrefix]
      exact List.take_prefix ..
    · exact List.length_take_of_le (commonPrefix_le as bs).1
  · rintro length ⟨shared, first, second, rfl⟩
    exact length_le_commonPrefix first second

theorem isGreatest_commonSuffix (as bs : List α) :
    IsGreatest (sharedLengths List.IsSuffix as bs) (commonPrefix as.reverse bs.reverse) := by
  rw [← sharedLengths_reverse]
  exact isGreatest_commonPrefix as.reverse bs.reverse

theorem count_byEnds (as bs : List α) :
    (byEnds as bs).count .equal = commonPrefix as bs +
      commonPrefix (as.drop (commonPrefix as bs)).reverse (bs.drop (commonPrefix as bs)).reverse := by
  simp [byEnds, List.count_replicate]

/-- The steps lead from one sequence to the other. Those of a table keep as many elements as the
longest common subsequence has. Beyond the table the longest common front and the longest common end
behind it are kept, which are no more. -/
theorem align_keeps_longest (as bs : List α) :
    Script as bs (align as bs) ∧
    ∃ longest, IsGreatest (sharedLengths List.Sublist as bs) longest ∧
      (align as bs).count .equal ≤ longest ∧
      (as.length ≤ tableLimit → bs.length ≤ tableLimit → (align as bs).count .equal = longest) ∧
      (tableLimit < as.length ∨ tableLimit < bs.length →
        ∃ front back, IsGreatest (sharedLengths List.IsPrefix as bs) front ∧
          IsGreatest (sharedLengths List.IsSuffix (as.drop front) (bs.drop front)) back ∧
          (align as bs).count .equal = front + back) := by
  have script := script_align as bs
  have greatest := isGreatest_commonLength as bs
  refine ⟨script, commonLength as bs, greatest, ?_, ?_, ?_⟩
  · exact greatest.2 script.count_mem_sharedLengths
  · intro shortA shortB
    have inside : ¬ (tableLimit < as.length ∨ tableLimit < bs.length) := by omega
    rw [align, if_neg inside, count_byTable]
  · intro beyond
    refine ⟨commonPrefix as bs, _, isGreatest_commonPrefix as bs, isGreatest_commonSuffix _ _, ?_⟩
    rw [align, if_pos beyond, count_byEnds]

/-- Seven letters and six, of which four can be kept, and letters beyond the table. -/
theorem align_keeps_longest_letters :
    IsGreatest (sharedLengths List.Sublist "abcbdab".toList "bdcaba".toList) 4 ∧
    ∃ front back,
      IsGreatest (sharedLengths List.IsPrefix (List.replicate 2049 'a') "aba".toList) front ∧
      IsGreatest (sharedLengths List.IsSuffix ((List.replicate 2049 'a').drop front)
        ("aba".toList.drop front)) back ∧
      (align (List.replicate 2049 'a') "aba".toList).count .equal = front + back := by
  obtain ⟨-, longest, greatest, -, within, -⟩ :=
    align_keeps_longest "abcbdab".toList "bdcaba".toList
  have four : (align "abcbdab".toList "bdcaba".toList).count .equal = 4 := by decide +kernel
  obtain rfl : 4 = longest := four.symm.trans (within (by decide) (by decide))
  have long : tableLimit < (List.replicate 2049 'a').length := by
    rw [List.length_replicate]
    decide
  obtain ⟨-, -, -, -, -, beyond⟩ := align_keeps_longest (List.replicate 2049 'a') "aba".toList
  exact ⟨greatest, beyond (.inl long)⟩

end SpokenForm.Alignment
