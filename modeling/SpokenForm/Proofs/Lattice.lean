import Mathlib.Data.Finset.Card
import Mathlib.Data.List.Sigma
import SpokenForm.Lattice
import SpokenForm.Proofs.Distinct
import SpokenForm.Proofs.Weight

/-! The best distinct texts of ranked paths. The paths of a lattice stand in the order of their weights,
and those of one weight in the order of their places, so that the first path of a text is the lightest;
and the texts of the first paths are listed from the front. -/
namespace SpokenForm.Lattice

variable {paths : List (Path Weight)} {text : Text} {weight : Weight} {place : Nat}

/-- Where a text is ranked: its least weight, and the first place that has the text with this weight. -/
structure RankedAt (paths : List (Path Weight)) (text : Text) (weight : Weight) (place : Nat) : Prop where
  here : paths[place]? = some ⟨text, weight⟩
  least : ∀ path ∈ paths, path.text = text → ¬ path.weight.Below weight
  first : ∀ earlier < place, paths[earlier]? ≠ some ⟨text, weight⟩

/-- A text is lighter than another, or as light and has its weight earlier. -/
def Leads (paths : List (Path Weight)) (text other : Text) : Prop :=
  ∃ weight place otherWeight otherPlace, RankedAt paths text weight place ∧
    RankedAt paths other otherWeight otherPlace ∧
      (weight.Below otherWeight ∨ weight = otherWeight ∧ place < otherPlace)

theorem RankedAt.unique {otherWeight : Weight} {otherPlace : Nat} (ranked : RankedAt paths text weight place)
    (again : RankedAt paths text otherWeight otherPlace) : weight = otherWeight ∧ place = otherPlace := by
  have light := again.least _ (List.mem_of_getElem? ranked.here) rfl
  have otherLight := ranked.least _ (List.mem_of_getElem? again.here) rfl
  simp only [Weight.below_iff] at light otherLight
  have same : weight = otherWeight := Weight.rank_injective (by omega)
  subst same
  refine ⟨rfl, ?_⟩
  rcases Nat.lt_trichotomy place otherPlace with before | equal | behind
  · exact absurd ranked.here (again.first place before)
  · exact equal
  · exact absurd again.here (ranked.first otherPlace behind)

/-! Ranked paths with their places. -/

/-- Paths with their places, by weight and then by place. -/
def Before (entry other : Path Weight × Nat) : Prop :=
  entry.1.weight.rank < other.1.weight.rank ∨
    entry.1.weight = other.1.weight ∧ entry.2 < other.2

/-- The paths of a lattice with the places that they come from. -/
def placed (paths : List (Path Weight)) : List (Path Weight × Nat) :=
  paths.zipIdx.mergeSort (List.zipIdxLE fun a b => WeightScale.ranksBefore a.weight b.weight)

theorem map_placed (paths : List (Path Weight)) : (placed paths).map Prod.fst = (ofPaths paths).paths :=
  List.mergeSort_zipIdx

theorem mem_placed {entry : Path Weight × Nat} : entry ∈ placed paths ↔ paths[entry.2]? = some entry.1 := by
  rw [placed, List.mem_mergeSort]
  exact List.mem_zipIdx_iff_getElem?

theorem ranksBefore_iff {a b : Weight} : WeightScale.ranksBefore a b = true ↔ a.rank ≤ b.rank :=
  decide_eq_true_iff

theorem pairwise_placed (paths : List (Path Weight)) : (placed paths).Pairwise Before := by
  have transitive (a b c : Path Weight) : WeightScale.ranksBefore a.weight b.weight = true →
      WeightScale.ranksBefore b.weight c.weight = true →
        WeightScale.ranksBefore a.weight c.weight = true := by
    rw [ranksBefore_iff, ranksBefore_iff, ranksBefore_iff]
    exact Int.le_trans
  have total (a b : Path Weight) : (WeightScale.ranksBefore a.weight b.weight ||
      WeightScale.ranksBefore b.weight a.weight) = true := by
    rw [Bool.or_eq_true, ranksBefore_iff, ranksBefore_iff]
    exact Int.le_total _ _
  have ranked := List.pairwise_mergeSort (List.zipIdxLE_trans transitive)
    (List.zipIdxLE_total total) paths.zipIdx
  have apart : (placed paths).Pairwise fun entry other => entry.2 ≠ other.2 := by
    have places : ((placed paths).map Prod.snd).Perm (paths.zipIdx.map Prod.snd) :=
      (List.mergeSort_perm ..).map Prod.snd
    exact List.pairwise_map.mp (places.nodup_iff.mpr (List.nodup_zipIdx_map_snd paths))
  refine (List.Pairwise.and ranked apart).imp ?_
  intro entry other both
  obtain ⟨ranks, different⟩ := both
  rw [List.zipIdxLE] at ranks
  split at ranks
  · rename_i atMost
    split at ranks
    · rename_i atLeast
      have same := le_antisymm (ranksBefore_iff.mp atMost) (ranksBefore_iff.mp atLeast)
      have places : entry.2 ≤ other.2 := of_decide_eq_true ranks
      exact .inr ⟨Weight.rank_injective same, lt_of_le_of_ne places different⟩
    · rename_i lighter
      exact .inl (not_le.mp fun less => lighter (ranksBefore_iff.mpr less))
  · exact absurd ranks Bool.false_ne_true

theorem rankedAt_of_isFirst {entry : Path Weight × Nat}
    (first : IsFirst Before (fun entry => entry.1.text) (placed paths) text entry) :
    RankedAt paths text entry.1.weight entry.2 := by
  obtain ⟨listed, rfl, ahead⟩ := first
  refine ⟨mem_placed.mp listed, ?_, ?_⟩
  · intro path member same
    obtain ⟨place, found⟩ := List.getElem?_of_mem member
    rw [Weight.below_iff]
    rcases ahead (path, place) (mem_placed.mpr found) same with equal | before | ⟨alike, -⟩
    · rw [← equal]
      exact lt_irrefl _
    · exact lt_asymm before
    · rw [← alike]
      exact lt_irrefl _
  · intro earlier less found
    have again : (⟨entry.1.text, entry.1.weight⟩, earlier) ∈ placed paths := mem_placed.mpr found
    rcases ahead _ again rfl with equal | before | ⟨-, later⟩
    · rw [← equal] at less
      exact lt_irrefl _ less
    · exact lt_irrefl _ before
    · exact lt_asymm less later

/-! What is listed. -/

theorem texts_placed (paths : List (Path Weight)) :
    (placed paths).map (fun entry => entry.1.text) = (ofPaths paths).paths.map Path.text := by
  rw [← map_placed, List.map_map]
  rfl

theorem mem_texts {text : Text} :
    text ∈ (ofPaths paths).paths.map Path.text ↔ text ∈ paths.map Path.text := by
  have same : (ofPaths paths).paths.Perm paths := List.mergeSort_perm ..
  exact (same.map Path.text).mem_iff

theorem exists_rankedAt (member : text ∈ paths.map Path.text) :
    ∃ weight place, RankedAt paths text weight place := by
  rw [← mem_texts, ← texts_placed] at member
  obtain ⟨entry, first⟩ := exists_isFirst (pairwise_placed paths) member
  exact ⟨entry.1.weight, entry.2, rankedAt_of_isFirst first⟩

/-- The distinct texts stand in their order. -/
theorem pairwise_texts (paths : List (Path Weight)) :
    ((ofPaths paths).paths.map Path.text).eraseDups.Pairwise (Leads paths) := by
  rw [← texts_placed]
  refine (pairwise_eraseDups (pairwise_placed paths)).imp ?_
  intro text other found
  obtain ⟨entry, otherEntry, first, otherFirst, before⟩ := found
  refine ⟨_, _, _, _, rankedAt_of_isFirst first, rankedAt_of_isFirst otherFirst, ?_⟩
  exact before.imp_left Weight.below_iff.mpr

theorem length_texts (paths : List (Path Weight)) :
    ((ofPaths paths).paths.map Path.text).eraseDups.length = (paths.map Path.text).toFinset.card := by
  rw [← List.toFinset_card_of_nodup (nodup_eraseDups _)]
  congr 1
  ext text
  rw [List.mem_toFinset, List.mem_toFinset, List.mem_eraseDups, mem_texts]

theorem Leads.not_below {other : Text} (leads : Leads paths text other) {otherWeight : Weight}
    {otherPlace : Nat} (ranked : RankedAt paths text weight place)
    (otherRanked : RankedAt paths other otherWeight otherPlace) : ¬ otherWeight.Below weight := by
  obtain ⟨_, _, _, _, first, second, order⟩ := leads
  obtain ⟨rfl, rfl⟩ := ranked.unique first
  obtain ⟨rfl, rfl⟩ := otherRanked.unique second
  rw [Weight.below_iff] at order ⊢
  rcases order with lighter | ⟨rfl, -⟩
  · exact lt_asymm lighter
  · exact lt_irrefl _

/-- What is listed of paths when so many texts are asked for. -/
structure Lists (paths : List (Path Weight)) (n : Nat) (texts : List Text) : Prop where
  length : texts.length = min n (paths.map Path.text).toFinset.card
  distinct : texts.Nodup
  present : ∀ text ∈ texts, text ∈ paths.map Path.text
  ordered : texts.Pairwise (Leads paths)
  complete : ∀ listed ∈ texts, ∀ weight place, RankedAt paths listed weight place →
    ∀ text lighter lighterPlace, RankedAt paths text lighter lighterPlace → lighter.Below weight →
      text ∈ texts

theorem lists_nBest (paths : List (Path Weight)) (n : Nat) : Lists paths n ((ofPaths paths).nBest n) := by
  have taken := List.take_sublist n ((ofPaths paths).paths.map Path.text).eraseDups
  refine ⟨?_, (nodup_eraseDups _).sublist taken, ?_, (pairwise_texts paths).sublist taken, ?_⟩
  · rw [nBest, List.length_take, length_texts]
  · intro text member
    rw [← mem_texts]
    exact List.mem_eraseDups.mp (taken.subset member)
  · intro listed isListed weight place ranked text lighter lighterPlace lighterRanked below
    have present : text ∈ ((ofPaths paths).paths.map Path.text).eraseDups := by
      rw [List.mem_eraseDups, mem_texts]
      exact List.mem_map.mpr ⟨_, List.mem_of_getElem? lighterRanked.here, rfl⟩
    have order := pairwise_texts paths
    rw [← List.take_append_drop n ((ofPaths paths).paths.map Path.text).eraseDups] at present order
    rcases List.mem_append.mp present with isTaken | isLeft
    · exact isTaken
    · have leads := (List.pairwise_append.mp order).2.2 listed isListed text isLeft
      exact absurd below (leads.not_below ranked lighterRanked)

/-- The best distinct texts are listed in the order of their least weights and first places, none that is
lighter than a listed one is left out, and fewer texts are the first ones of more. -/
theorem nBest_lists_lightest (paths : List (Path Weight)) (n : Nat) :
    Lists paths n ((ofPaths paths).nBest n) ∧
      (∀ text ∈ paths.map Path.text, ∃ weight place, RankedAt paths text weight place) ∧
        ∀ m ≤ n, (ofPaths paths).nBest m = ((ofPaths paths).nBest n).take m := by
  refine ⟨lists_nBest paths n, fun text member => exists_rankedAt member, ?_⟩
  intro m fewer
  rw [nBest, nBest, List.take_take, Nat.min_eq_left fewer]

end SpokenForm.Lattice
