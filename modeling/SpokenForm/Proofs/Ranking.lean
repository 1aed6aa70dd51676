import Mathlib.Data.List.Sort
import SpokenForm.Proofs.ExactWeight

/-! Items ranked by exact weights. The first of them are not heavier than the rest, and items may be
added behind without changing the least weights, if each of them has enough lighter ones. -/
namespace SpokenForm.WeightScale

variable {α : Type} {weight : α → ℚ}

/-- Ranked items stand in ascending order. -/
theorem pairwise_ranked (weight : α → ℚ) (items : List α) :
    (items.mergeSort fun a b => ranksBefore (weight a) (weight b)).Pairwise
      fun a b => weight a ≤ weight b := by
  have sorted := @List.pairwise_mergeSort _ (fun a b : α => ranksBefore (weight a) (weight b)) ?_ ?_
    items
  · simpa using sorted
  · intro a b c
    simpa using le_trans
  · intro a b
    simpa using le_total (weight a) (weight b)

/-- Items are ranked by the weights of what they are mapped to. -/
theorem map_ranked {β : Type} (f : β → α) (weight : α → ℚ) (items : List β) :
    (items.mergeSort fun a b => ranksBefore (weight (f a)) (weight (f b))).map f =
      (items.map f).mergeSort fun a b => ranksBefore (weight a) (weight b) :=
  List.map_mergeSort fun _ _ _ _ => rfl

/-- An item in front that is as light as all others stays there. -/
theorem ranked_cons {first : α} {items : List α}
    (lightest : ∀ item ∈ items, weight first ≤ weight item) :
    ((first :: items).mergeSort fun a b => ranksBefore (weight a) (weight b)) =
      first :: items.mergeSort fun a b => ranksBefore (weight a) (weight b) := by
  obtain ⟨before, after, all, rest, lighter⟩ :=
    @List.mergeSort_cons α (fun a b => ranksBefore (weight a) (weight b))
      (by simpa using fun a b c => le_trans)
      (by simpa using fun a b => le_total (weight a) (weight b)) first items
  have nothing : before = [] := by
    rw [List.eq_nil_iff_forall_not_mem]
    intro item isBefore
    have member : item ∈ before ++ after := List.mem_append_left _ isBefore
    rw [← rest, List.mem_mergeSort] at member
    have strictly : weight item < weight first := by simpa using lighter item isBefore
    exact absurd (lightest item member) (not_le.mpr strictly)
  rw [all, rest, nothing, List.nil_append, List.nil_append]

section Taken

variable {items : List α} (ranked : items.Pairwise fun a b => weight a ≤ weight b) {n : Nat}
include ranked

/-- Behind the items that are taken none is lighter. -/
theorem weight_le_of_dropped {taken left : α} (isTaken : taken ∈ items.take n)
    (isLeft : left ∈ items.drop n) : weight taken ≤ weight left := by
  rw [← List.take_append_drop n items, List.pairwise_append] at ranked
  exact ranked.2.2 taken isTaken left isLeft

/-- With so many items up to some weight, none of those taken is above it. -/
theorem take_of_many {bound : ℚ} (many : n ≤ items.countP fun item => weight item ≤ bound) :
    (items.take n).length = n ∧ ∀ taken ∈ items.take n, weight taken ≤ bound := by
  refine ⟨?_, ?_⟩
  · have all : items.countP (fun item => decide (weight item ≤ bound)) ≤ items.length :=
      List.countP_le_length
    rw [List.length_take]
    omega
  · -- a heavy one among those taken has only heavy ones behind it: too few light ones are left
    intro taken isTaken
    by_contra heavy
    have behind : (items.drop n).countP (fun item => weight item ≤ bound) = 0 := by
      rw [List.countP_eq_zero]
      intro left isLeft
      have above := weight_le_of_dropped ranked isTaken isLeft
      simpa using lt_of_lt_of_le (not_le.mp heavy) above
    have fewer : (items.take n).countP (fun item => weight item ≤ bound) < (items.take n).length := by
      refine lt_of_le_of_ne List.countP_le_length fun all => heavy ?_
      simpa using List.countP_eq_length.mp all taken isTaken
    rw [← List.take_append_drop n items, List.countP_append, behind, Nat.add_zero] at many
    have few : (items.take n).length ≤ n := List.length_take_le n items
    omega

end Taken

/-- The least weights, in ascending order. -/
def least (n : Nat) (weights : List ℚ) : List ℚ := (weights.mergeSort (· ≤ ·)).take n

theorem pairwise_mergeSort (weights : List ℚ) : (weights.mergeSort (· ≤ ·)).Pairwise (· ≤ ·) := by
  have ranked := pairwise_ranked id weights
  simpa using ranked

section

variable {n : Nat} {weights kept others : List ℚ} (all : weights.Perm (kept ++ others))
  (many : ∀ heavy ∈ others, n ≤ kept.countP (· ≤ heavy))

include many in
/-- None of the least weights is above a weight that is left, or one with enough lighter ones. -/
theorem least_le {taken left : ℚ} (isTaken : taken ∈ least n kept)
    (isLeft : left ∈ (kept.mergeSort (· ≤ ·)).drop n ++ others) : taken ≤ left := by
  have sorted : (kept.mergeSort (· ≤ ·)).Pairwise fun a b => id a ≤ id b := pairwise_mergeSort kept
  rcases List.mem_append.mp isLeft with dropped | heavy
  · exact weight_le_of_dropped sorted isTaken dropped
  · have enough := many left heavy
    rw [← (List.mergeSort_perm kept (· ≤ ·)).countP_eq] at enough
    exact (take_of_many sorted enough).2 taken isTaken

include all many

theorem mergeSort_of_many : weights.mergeSort (· ≤ ·) =
    least n kept ++ ((kept.mergeSort (· ≤ ·)).drop n ++ others).mergeSort (· ≤ ·) := by
  have joined : (least n kept ++ ((kept.mergeSort (· ≤ ·)).drop n ++ others)).Perm
      (kept ++ others) := by
    rw [least, ← List.append_assoc, List.take_append_drop]
    exact (List.mergeSort_perm kept _).append_right others
  refine List.Perm.eq_of_pairwise (fun a b _ _ => le_antisymm) (pairwise_mergeSort weights) ?_ ?_
  · refine List.pairwise_append.mpr ⟨(pairwise_mergeSort kept).sublist (List.take_sublist ..),
      pairwise_mergeSort _, fun taken isTaken left isLeft => ?_⟩
    exact least_le many isTaken (List.mem_mergeSort.mp isLeft)
  · exact (List.mergeSort_perm ..).trans
      (all.trans (joined.symm.trans ((List.mergeSort_perm ..).symm.append_left _)))

/-- Weights that each have enough lighter ones are none of the least. -/
theorem least_of_many : least n weights = least n kept := by
  have length : (least n kept).length = min n kept.length := by
    rw [least, List.length_take, List.length_mergeSort]
  rw [least, mergeSort_of_many all many]
  by_cases short : n ≤ kept.length
  · exact List.take_left' (by omega)
  · -- with fewer weights than are asked for there can be no others
    have nothing : others = [] := by
      rw [List.eq_nil_iff_forall_not_mem]
      intro heavy member
      exact short ((many heavy member).trans List.countP_le_length)
    have dropped : (kept.mergeSort (· ≤ ·)).drop n = [] :=
      List.drop_of_length_le (by rw [List.length_mergeSort]; omega)
    rw [nothing, dropped, List.append_nil, List.mergeSort_nil, List.append_nil]
    exact List.take_of_length_le (by omega)

end

end SpokenForm.WeightScale
