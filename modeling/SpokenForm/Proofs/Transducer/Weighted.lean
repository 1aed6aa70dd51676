import SpokenForm.Proofs.Ranking
import SpokenForm.Proofs.Transducer.Runs
import SpokenForm.Transducer.Operations

/-! States with weights: the least weight of each is kept, and they go on as their states do, at the weight
of the state and that of the arc. -/
namespace SpokenForm.Transducer

/-! Least weights. -/

theorem least?_eq_some {weights : List ℚ} {weight : ℚ} (isLeast : least? weights = some weight) :
    weight ∈ weights ∧ ∀ other ∈ weights, weight ≤ other := by
  have order := WeightScale.pairwise_ranked id weights
  have same := List.mergeSort_perm weights WeightScale.ranksBefore
  simp only [id] at order
  rw [least?] at isLeast
  generalize weights.mergeSort WeightScale.ranksBefore = sorted at isLeast order same
  cases sorted with
  | nil => cases isLeast
  | cons first rest =>
    obtain rfl := Option.some.inj isLeast
    obtain ⟨lightest, -⟩ := List.pairwise_cons.mp order
    refine ⟨same.mem_iff.mp List.mem_cons_self, ?_⟩
    intro other member
    rcases List.mem_cons.mp (same.mem_iff.mpr member) with rfl | later
    · exact le_rfl
    · exact lightest other later

theorem exists_least? {weights : List ℚ} {weight : ℚ} (member : weight ∈ weights) :
    ∃ least, least? weights = some least ∧ least ≤ weight := by
  cases found : least? weights with
  | none =>
    rw [least?, List.head?_eq_none_iff] at found
    have none := (List.mergeSort_perm weights WeightScale.ranksBefore).length_eq
    rw [found, List.length_nil] at none
    rw [List.length_eq_zero_iff.mp none.symm] at member
    cases member
  | some least => exact ⟨least, rfl, (least?_eq_some found).2 weight member⟩

/-! The least weight of each state. -/

def firstOfEach (states : Weighted ℚ) : Weighted ℚ := states.eraseDupsBy fun a b => a.1 == b.1

theorem firstOfEach_cons (first : Nat × ℚ) (states : Weighted ℚ) :
    firstOfEach (first :: states) =
      first :: firstOfEach (states.filter fun other => other.1 ≠ first.1) := by
  simp [firstOfEach, List.eraseDupsBy_cons]

/-- In ascending order the first weight of a state is the least. -/
theorem firstOfEach_spec (states : Weighted ℚ) (ranked : states.Pairwise fun a b => a.2 ≤ b.2) :
    (∀ state ∈ firstOfEach states, state ∈ states) ∧
      ∀ state ∈ states, ∃ weight ≤ state.2, (state.1, weight) ∈ firstOfEach states := by
  induction shorter : states.length using Nat.strong_induction_on generalizing states with
  | _ length ih =>
    cases states with
    | nil => simp [firstOfEach]
    | cons first states =>
      obtain ⟨lightest, rankedRest⟩ := List.pairwise_cons.mp ranked
      have fewer : (states.filter fun other => other.1 ≠ first.1).length < length := by
        rw [← shorter, List.length_cons]
        exact Nat.lt_succ_of_le (List.length_filter_le ..)
      obtain ⟨sound, complete⟩ := ih _ fewer _ (rankedRest.filter _) rfl
      rw [firstOfEach_cons]
      constructor
      · intro state kept
        rcases List.mem_cons.mp kept with rfl | later
        · exact List.mem_cons_self
        · exact List.mem_cons_of_mem _ (List.mem_filter.mp (sound state later)).1
      · intro state member
        rcases List.mem_cons.mp member with rfl | later
        · exact ⟨state.2, le_rfl, List.mem_cons_self⟩
        by_cases same : state.1 = first.1
        · rw [same]
          exact ⟨first.2, lightest state later, List.mem_cons_self⟩
        · obtain ⟨weight, lighter, kept⟩ := complete state (List.mem_filter.mpr ⟨later, by simpa using same⟩)
          exact ⟨weight, lighter, List.mem_cons_of_mem _ kept⟩

theorem mem_lightest {states : Weighted ℚ} {state : Nat × ℚ} :
    state ∈ lightest states ↔
      state ∈ firstOfEach (states.mergeSort fun a b => WeightScale.ranksBefore a.2 b.2) := List.mem_mergeSort

theorem mem_of_mem_lightest {states : Weighted ℚ} {state : Nat × ℚ} (kept : state ∈ lightest states) :
    state ∈ states := by
  have spec := firstOfEach_spec _ (WeightScale.pairwise_ranked Prod.snd states)
  exact List.mem_mergeSort.mp (spec.1 state (mem_lightest.mp kept))

theorem exists_lightest {states : Weighted ℚ} {state : Nat} {weight : ℚ}
    (member : (state, weight) ∈ states) : ∃ least ≤ weight, (state, least) ∈ lightest states := by
  have spec := firstOfEach_spec _ (WeightScale.pairwise_ranked Prod.snd states)
  obtain ⟨least, lighter, kept⟩ := spec.2 _ (List.mem_mergeSort.mpr member)
  exact ⟨least, lighter, mem_lightest.mpr kept⟩

/-! Final weights and arcs. -/

variable {machine : Transducer ℚ} {states : Weighted ℚ}

theorem exists_of_finalOf? {final : ℚ} (accepts : machine.finalOf? states = some final) :
    ∃ state weight own, (state, weight) ∈ states ∧ machine.final? state = some own ∧
      weight + own = final := by
  obtain ⟨member, -⟩ := least?_eq_some accepts
  simpa using member

theorem exists_finalOf? {state : Nat} {weight own : ℚ} (member : (state, weight) ∈ states)
    (accepts : machine.final? state = some own) :
    ∃ final, machine.finalOf? states = some final ∧ final ≤ weight + own := by
  apply exists_least?
  rw [List.mem_filterMap]
  exact ⟨_, member, by simp [accepts]⟩

theorem mem_arcsFrom {arc : Arc ℚ Nat} : arc ∈ machine.arcsFrom states ↔
    ∃ state weight own, (state, weight) ∈ states ∧ own ∈ machine.arcsOf state ∧
      { own with weight := weight + own.weight } = arc := by
  simp [arcsFrom]

end SpokenForm.Transducer
