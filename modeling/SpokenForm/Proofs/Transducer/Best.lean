import Mathlib.Data.ENat.Lattice
import Mathlib.Data.List.Nodup
import Mathlib.Data.Set.Card
import SpokenForm.Proofs.Ranking
import SpokenForm.Proofs.Transducer.Paths

/-! The best outputs. The lightest paths of a deterministic machine are the best of any set of runs with
the same least weights. -/
namespace SpokenForm.Transducer

/-- The best endings of a set, at most so many: by weight, one for each sequence of labels, each with
the least weight of its labels; and of those left out none is better. -/
structure IsBest (k : Nat) (all : Ending ℚ → Prop) (taken : List (Ending ℚ)) : Prop where
  ranked : taken.Pairwise fun a b => a.weight ≤ b.weight
  distinct : (taken.map Ending.labels).Nodup
  least : ∀ ending ∈ taken, all ending ∧
    ∀ other, all other → other.labels = ending.labels → ending.weight ≤ other.weight
  bounded : taken.length ≤ k
  complete : ∀ other, all other → other.labels ∈ taken.map Ending.labels ∨
    taken.length = k ∧ ∀ ending ∈ taken, ending.weight ≤ other.weight

/-! How many there are. -/

def outputs (all : Ending ℚ → Prop) : Set (List Nat) := {labels | ∃ weight, all ⟨labels, weight⟩}

/-- As many endings are taken as are allowed, or one for each sequence of labels. -/
theorem IsBest.length_eq {k : Nat} {all : Ending ℚ → Prop} {taken : List (Ending ℚ)}
    (isBest : IsBest k all taken) : (taken.length : ℕ∞) = min (k : ℕ∞) (outputs all).encard := by
  have inside : {labels | labels ∈ taken.map Ending.labels} ⊆ outputs all := by
    intro labels member
    obtain ⟨ending, isTaken, rfl⟩ := List.mem_map.mp member
    exact ⟨ending.weight, (isBest.least ending isTaken).1⟩
  have size : {labels | labels ∈ taken.map Ending.labels}.encard = taken.length := by
    have counted := Set.encard_coe_eq_coe_finsetCard (taken.map Ending.labels).toFinset
    rw [List.toFinset_card_of_nodup isBest.distinct, List.length_map] at counted
    simpa using counted
  by_cases full : taken.length = k
  · rw [← full, min_eq_left]
    exact size.symm.trans_le (Set.encard_le_encard inside)
  · have everything : outputs all ⊆ {labels | labels ∈ taken.map Ending.labels} := by
      rintro labels ⟨weight, isOne⟩
      rcases isBest.complete _ isOne with listed | ⟨all_, -⟩
      · exact listed
      · exact absurd all_ full
    have same : (outputs all).encard = taken.length :=
      (congrArg Set.encard (Set.Subset.antisymm everything inside)).trans size
    rw [same, min_eq_right]
    exact_mod_cast isBest.bounded

/-! The shortest of paths with different labels. -/

/-- Endings in ascending order; those of one weight keep theirs. -/
def ranked (endings : List (Ending ℚ)) : List (Ending ℚ) :=
  endings.mergeSort fun a b => WeightScale.ranksBefore a.weight b.weight

theorem mem_ranked {endings : List (Ending ℚ)} {ending : Ending ℚ} :
    ending ∈ ranked endings ↔ ending ∈ endings := List.mem_mergeSort

theorem isBest_ranked_nil {k : Nat} {all : Ending ℚ → Prop} (none : ∀ ending, ¬ all ending) :
    IsBest k all (ranked []) := by
  rw [ranked, List.mergeSort_nil]
  exact ⟨.nil, List.nodup_nil, by simp, Nat.zero_le k, fun other isOne => absurd isOne (none other)⟩

section Shortest

variable {k : Nat} {all : Ending ℚ → Prop} {listed taken : List (Ending ℚ)}
  (shortest : IsShortest k listed taken)
include shortest

/-- What is listed is taken, or as many as are asked for that are not heavier. -/
theorem IsShortest.taken_or_full {ending : Ending ℚ} (isListed : ending ∈ listed) :
    ending ∈ taken ∨ taken.length = k ∧ ∀ other ∈ taken, other.weight ≤ ending.weight := by
  obtain ⟨left, same, length, lighter⟩ := shortest
  rcases List.mem_append.mp (same.mem_iff.mpr isListed) with isTaken | isLeft
  · exact .inl isTaken
  · refine .inr ⟨?_, fun other isTaken => lighter other isTaken ending isLeft⟩
    have sum := same.length_eq
    have some_left := List.length_pos_of_mem isLeft
    rw [List.length_append] at sum
    omega

/-- The shortest of endings with different labels are the best of a set with the same least weights. -/
theorem IsShortest.isBest (apart : (listed.map Ending.labels).Nodup)
    (forth : ∀ ending, all ending → ∃ weight ≤ ending.weight, ⟨ending.labels, weight⟩ ∈ listed)
    (back : ∀ ending ∈ listed, ∃ weight ≤ ending.weight, all ⟨ending.labels, weight⟩) :
    IsBest k all (ranked taken) := by
  have order := List.mergeSort_perm taken fun a b => WeightScale.ranksBefore a.weight b.weight
  -- what is listed has the least weight of its labels, as nothing else with these is listed
  have least : ∀ ending ∈ listed, ∀ other, all other → other.labels = ending.labels →
      ending.weight ≤ other.weight := by
    intro ending isListed other isOne same
    obtain ⟨weight, lighter, alsoListed⟩ := forth other isOne
    have unique : (⟨other.labels, weight⟩ : Ending ℚ) = ending :=
      List.inj_on_of_nodup_map apart alsoListed isListed same
    rw [← unique]
    exact lighter
  have isMember : ∀ ending ∈ listed, all ending := by
    intro ending isListed
    obtain ⟨weight, lighter, isOne⟩ := back ending isListed
    have same : weight = ending.weight := le_antisymm lighter (least ending isListed _ isOne rfl)
    rwa [same] at isOne
  refine ⟨WeightScale.pairwise_ranked Ending.weight taken, ?_, ?_, ?_, ?_⟩
  · obtain ⟨left, same, -, -⟩ := shortest
    refine (order.map Ending.labels).nodup_iff.mpr (List.Nodup.sublist ?_ ((same.map _).nodup_iff.mpr apart))
    rw [List.map_append]
    exact List.sublist_append_left ..
  · intro ending isRanked
    have isListed := shortest.subset (mem_ranked.mp isRanked)
    exact ⟨isMember ending isListed, least ending isListed⟩
  · obtain ⟨left, -, length, -⟩ := shortest
    rw [ranked, List.length_mergeSort, length]
    exact min_le_left ..
  · intro other isOne
    obtain ⟨weight, lighter, isListed⟩ := forth other isOne
    rcases shortest.taken_or_full isListed with isTaken | ⟨full, notHeavier⟩
    · exact .inl (List.mem_map.mpr ⟨_, mem_ranked.mpr isTaken, rfl⟩)
    · refine .inr ⟨(List.length_mergeSort ..).trans full, ?_⟩
      exact fun ending isRanked => (notHeavier ending (mem_ranked.mp isRanked)).trans lighter

end Shortest

end SpokenForm.Transducer
