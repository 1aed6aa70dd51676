import Mathlib.Algebra.BigOperators.Group.List.Basic
import Mathlib.Data.List.Sections
import Mathlib.Tactic.Linarith
import Mathlib.Tactic.NormNum
import Mathlib.Tactic.Ring
import SpokenForm.Proofs.Ranking
import SpokenForm.Whitelist

/-! Combined lattices. They hold the path that joins the best paths of all lattices, and those that
leave it for another path of a single lattice. Of all ways to join one path of each lattice, these
always have the three least weights: a way that leaves the best path at two places is no lighter than
those that leave it at one of them. -/
namespace SpokenForm.Lattice

variable {W : Type}

def bestPaths (parts : List (Lattice W)) : List (Path W) :=
  parts.filterMap fun part => part.paths.head?

/-- The best paths but for one lattice, of which another path is taken; in order of the lattices. -/
def departures : List (Lattice W) → List (List (Path W))
  | [] => []
  | part :: rest =>
    match part.paths with
    | [] => []
    | first :: others =>
      others.map (· :: bestPaths rest) ++ (departures rest).map (first :: ·)

/-- One path of each lattice, where at least two are not the best ones. -/
def detours : List (Lattice W) → List (List (Path W))
  | [] => []
  | part :: rest =>
    match part.paths with
    | [] => []
    | first :: others =>
      (departures rest).flatMap (fun chosen => others.map (· :: chosen)) ++
        (detours rest).flatMap fun chosen => (first :: others).map (· :: chosen)

/-- One path of each lattice: the best ones, but for another path of a single lattice. -/
def DepartsOnce (parts : List (Lattice W)) (chosen : List (Path W)) : Prop :=
  ∃ front part back other, parts = front ++ part :: back ∧ other ∈ part.paths.tail ∧
    chosen = bestPaths front ++ other :: bestPaths back

/-- The exact weight of several paths. -/
def totalWeight (chosen : List (Path ℚ)) : ℚ := (chosen.map Path.weight).sum

/-- The path that several paths make up: their texts with spaces between them, and all their weight. -/
def joined (chosen : List (Path ℚ)) : Path ℚ :=
  ⟨Text.joinSpaced (chosen.map Path.text), totalWeight chosen⟩

/-- Ways to take paths, in ascending order of their weights. -/
def ranked (ways : List (List (Path ℚ))) : List (List (Path ℚ)) :=
  ways.mergeSort fun a b => WeightScale.ranksBefore (totalWeight a) (totalWeight b)

@[simp] theorem totalWeight_nil : totalWeight [] = 0 := rfl

@[simp] theorem totalWeight_cons (path : Path ℚ) (chosen : List (Path ℚ)) :
    totalWeight (path :: chosen) = path.weight + totalWeight chosen := by
  simp [totalWeight]

@[simp] theorem totalWeight_append (front back : List (Path ℚ)) :
    totalWeight (front ++ back) = totalWeight front + totalWeight back := by
  simp [totalWeight]

theorem exists_first {part : Lattice W} {rest : List (Lattice W)}
    (nonempty : ∀ lattice ∈ part :: rest, lattice.paths ≠ []) :
    (∃ first others, part.paths = first :: others) ∧ ∀ lattice ∈ rest, lattice.paths ≠ [] := by
  obtain ⟨here, later⟩ := List.forall_mem_cons.mp nonempty
  exact ⟨List.exists_cons_of_ne_nil here, later⟩

theorem bestPaths_cons {part : Lattice W} {first : Path W} {others : List (Path W)}
    (paths : part.paths = first :: others) (rest : List (Lattice W)) :
    bestPaths (part :: rest) = first :: bestPaths rest := by
  simp [bestPaths, paths]

theorem departures_cons {part : Lattice W} {first : Path W} {others : List (Path W)}
    (paths : part.paths = first :: others) (rest : List (Lattice W)) :
    departures (part :: rest) =
      others.map (· :: bestPaths rest) ++ (departures rest).map (first :: ·) := by
  simp [departures, paths]

theorem detours_cons {part : Lattice W} {first : Path W} {others : List (Path W)}
    (paths : part.paths = first :: others) (rest : List (Lattice W)) :
    detours (part :: rest) =
      (departures rest).flatMap (fun chosen => others.map (· :: chosen)) ++
        (detours rest).flatMap fun chosen => (first :: others).map (· :: chosen) := by
  simp [detours, paths]

section

variable {parts : List (Lattice W)} (nonempty : ∀ part ∈ parts, part.paths ≠ [])
include nonempty

theorem length_departures :
    (departures parts).length = (parts.map fun part => part.paths.length - 1).sum := by
  induction parts with
  | nil => rfl
  | cons part rest ih =>
    obtain ⟨⟨first, others, paths⟩, later⟩ := exists_first nonempty
    simp [departures_cons paths, ih later, paths]

theorem departsOnce_of_mem {chosen : List (Path W)} (member : chosen ∈ departures parts) :
    DepartsOnce parts chosen := by
  induction parts generalizing chosen with
  | nil => cases member
  | cons part rest ih =>
    obtain ⟨⟨first, others, paths⟩, later⟩ := exists_first nonempty
    rw [departures_cons paths, List.mem_append, List.mem_map, List.mem_map] at member
    rcases member with ⟨other, among, rfl⟩ | ⟨behind, further, rfl⟩
    · exact ⟨[], part, rest, other, rfl, by rwa [paths], rfl⟩
    · obtain ⟨front, place, back, other, rfl, among, rfl⟩ := ih later further
      exact ⟨part :: front, place, back, other, rfl, among, by
        rw [bestPaths_cons paths, List.cons_append]⟩

/-- The ways to take one path of each lattice, by how often they leave the best one. -/
theorem sections_perm : (List.sections (parts.map Lattice.paths)).Perm
    ((bestPaths parts :: departures parts) ++ detours parts) := by
  induction parts with
  | nil => exact .refl _
  | cons part rest ih =>
    obtain ⟨⟨first, others, paths⟩, later⟩ := exists_first nonempty
    have apart : ((departures rest).flatMap fun chosen => (first :: others).map (· :: chosen)).Perm
        ((departures rest).map (first :: ·) ++
          (departures rest).flatMap fun chosen => others.map (· :: chosen)) :=
      (List.map_append_flatMap_perm ..).symm
    have all := (ih later).flatMap_right fun chosen => (first :: others).map (· :: chosen)
    rw [List.flatMap_append, List.flatMap_cons] at all
    rw [List.map_cons, List.sections, paths, bestPaths_cons paths, departures_cons paths,
      detours_cons paths]
    refine all.trans ?_
    simpa using (apart.append_right _).append_left _

end

/-! Exact weights of combined paths. -/

theorem concatenation_eq (chosen : List (Path ℚ)) : concatenation chosen = joined chosen := by
  have general (start : ℚ) : chosen.foldl (fun total path => WeightScale.add total path.weight) start =
      start + totalWeight chosen := by
    induction chosen generalizing start with
    | nil => simp [totalWeight]
    | cons path chosen ih =>
      rw [List.foldl_cons, ih, WeightScale.add_exact, totalWeight_cons, add_assoc]
  rw [concatenation, joined, general, WeightScale.zero_exact, zero_add]

/-- What takes another path's place is joined with its own weight. -/
theorem substitution_eq (front back : List (Path ℚ)) (first other : Path ℚ) :
    substitution (front ++ first :: back) front.length first other =
      joined (front ++ other :: back) := by
  have weight : totalWeight (front ++ first :: back) + (other.weight - first.weight) =
      totalWeight (front ++ other :: back) := by
    simp only [totalWeight_append, totalWeight_cons]
    ring
  rw [substitution, concatenation_eq, joined, joined, ← weight]
  simp

theorem substitutions_eq {parts : List (Lattice ℚ)} (nonempty : ∀ part ∈ parts, part.paths ≠ [])
    (front : List (Path ℚ)) :
    substitutions (front ++ bestPaths parts) front.length parts =
      (departures parts).map fun chosen => joined (front ++ chosen) := by
  induction parts generalizing front with
  | nil => rfl
  | cons part rest ih =>
    obtain ⟨⟨first, others, paths⟩, later⟩ := exists_first nonempty
    have behind := ih later (front ++ [first])
    rw [List.append_assoc, List.singleton_append, List.length_append, List.length_singleton] at behind
    rw [substitutions, paths, departures_cons paths, bestPaths_cons paths, behind]
    simp [substitution_eq, Function.comp_def]

/-- The combined paths are the best of those that leave the best path at one place at most. -/
theorem paths_combine {parts : List (Lattice ℚ)} (nonempty : ∀ part ∈ parts, part.paths ≠ []) (n : Nat) :
    (combine parts n).paths = ((ranked (bestPaths parts :: departures parts)).take n).map joined := by
  have others := substitutions_eq nonempty []
  rw [List.nil_append, List.length_nil] at others
  have same := WeightScale.map_ranked joined Path.weight (bestPaths parts :: departures parts)
  rw [combine, truncate, ofPaths, ← bestPaths, others, concatenation_eq, List.map_take]
  exact congrArg (List.take n) same.symm

theorem map_totalWeight_ranked (ways : List (List (Path ℚ))) :
    (ranked ways).map totalWeight = (ways.map totalWeight).mergeSort (· ≤ ·) :=
  WeightScale.map_ranked totalWeight id ways

/-! No detour is among the lightest. -/

/-- The lighter ways through the later lattices stay so behind the best path of one more. -/
theorem countP_le_of_behind {parts : List (Lattice ℚ)} {part : Lattice ℚ} {first path : Path ℚ}
    {others chosen : List (Path ℚ)} (paths : part.paths = first :: others)
    (heavier : first.weight ≤ path.weight) :
    ((bestPaths parts :: departures parts).countP fun way => totalWeight way ≤ totalWeight chosen) ≤
      (bestPaths (part :: parts) :: departures (part :: parts)).countP fun way =>
        totalWeight way ≤ totalWeight (path :: chosen) := by
  have behind : ((bestPaths parts :: departures parts).map (first :: ·)).Sublist
      (bestPaths (part :: parts) :: departures (part :: parts)) := by
    rw [bestPaths_cons paths, departures_cons paths, List.map_cons]
    exact (List.sublist_append_right _ _).cons_cons _
  refine le_trans ?_ behind.countP_le
  rw [List.countP_map]
  refine List.countP_mono_left fun way _ light => ?_
  have lighter : totalWeight way ≤ totalWeight chosen := by simpa using light
  simpa using add_le_add heavier lighter

section

variable {parts : List (Lattice ℚ)} (nonempty : ∀ part ∈ parts, part.paths ≠ [])
  (ascending : ∀ part ∈ parts, part.paths.Pairwise fun a b => a.weight ≤ b.weight)
include nonempty ascending

theorem totalWeight_bestPaths_le :
    ∀ chosen ∈ departures parts, totalWeight (bestPaths parts) ≤ totalWeight chosen := by
  induction parts with
  | nil => simp [departures]
  | cons part rest ih =>
    obtain ⟨⟨first, others, paths⟩, later⟩ := exists_first nonempty
    obtain ⟨sorted, sortedLater⟩ := List.forall_mem_cons.mp ascending
    rw [paths, List.pairwise_cons] at sorted
    rw [departures_cons paths, bestPaths_cons paths]
    intro chosen member
    rcases List.mem_append.mp member with now | further
    · obtain ⟨other, among, rfl⟩ := List.mem_map.mp now
      simpa using sorted.1 other among
    · obtain ⟨behind, among, rfl⟩ := List.mem_map.mp further
      simpa using ih later sortedLater behind among

/-- The best way, and those that leave it at one of two places, are no heavier than the detour. -/
theorem three_le_countP_of_two_places {part : Lattice ℚ} {first other : Path ℚ}
    {others chosen : List (Path ℚ)} (paths : part.paths = first :: others) (isOther : other ∈ others)
    (heavier : first.weight ≤ other.weight) (among : chosen ∈ departures parts) :
    3 ≤ (bestPaths (part :: parts) :: departures (part :: parts)).countP fun way =>
      totalWeight way ≤ totalWeight (other :: chosen) := by
  have heavierLater := totalWeight_bestPaths_le nonempty ascending chosen among
  have best : totalWeight (first :: bestPaths parts) ≤ totalWeight (other :: chosen) := by
    simp only [totalWeight_cons]
    linarith
  have here : 0 < (others.map (· :: bestPaths parts)).countP fun way =>
      totalWeight way ≤ totalWeight (other :: chosen) :=
    List.countP_pos_iff.mpr ⟨_, List.mem_map_of_mem isOther, by simpa using heavierLater⟩
  have behind : 0 < ((departures parts).map (first :: ·)).countP fun way =>
      totalWeight way ≤ totalWeight (other :: chosen) :=
    List.countP_pos_iff.mpr ⟨_, List.mem_map_of_mem among, by simpa using heavier⟩
  rw [bestPaths_cons paths, departures_cons paths, List.countP_cons, List.countP_append,
    if_pos (by simpa using best)]
  omega

/-- A detour has at least three ways no heavier than itself that leave the best paths once at most. -/
theorem three_le_countP : ∀ detour ∈ detours parts,
    3 ≤ (bestPaths parts :: departures parts).countP fun way =>
      totalWeight way ≤ totalWeight detour := by
  induction parts with
  | nil => simp [detours]
  | cons part rest ih =>
    obtain ⟨⟨first, others, paths⟩, later⟩ := exists_first nonempty
    obtain ⟨sorted, sortedLater⟩ := List.forall_mem_cons.mp ascending
    rw [paths, List.pairwise_cons] at sorted
    intro detour member
    rw [detours_cons paths, List.mem_append, List.mem_flatMap, List.mem_flatMap] at member
    rcases member with ⟨chosen, among, picked⟩ | ⟨chosen, among, picked⟩
    · obtain ⟨other, isOther, rfl⟩ := List.mem_map.mp picked
      exact three_le_countP_of_two_places later sortedLater paths isOther (sorted.1 other isOther) among
    · obtain ⟨path, isPath, rfl⟩ := List.mem_map.mp picked
      have heavier : first.weight ≤ path.weight := by
        rcases List.mem_cons.mp isPath with rfl | isOther
        · exact le_refl _
        · exact sorted.1 path isOther
      exact (ih later sortedLater chosen among).trans (countP_le_of_behind paths heavier)

/-- The best way is in front, and behind it those that leave it. -/
theorem paths_combine_succ (n : Nat) : (combine parts (n + 1)).paths =
    joined (bestPaths parts) :: ((ranked (departures parts)).take n).map joined := by
  have lightest := totalWeight_bestPaths_le nonempty ascending
  rw [paths_combine nonempty, ranked, WeightScale.ranked_cons lightest, List.take_succ_cons,
    List.map_cons, ranked]

/-- Up to three paths are the lightest of all that join one path of each lattice. -/
theorem weights_combine {n : Nat} (few : n ≤ 3) : (combine parts n).paths.map Path.weight =
    WeightScale.least n ((List.sections (parts.map Lattice.paths)).map totalWeight) := by
  have all := (sections_perm nonempty).map totalWeight
  rw [List.map_append] at all
  have many : ∀ heavy ∈ (detours parts).map totalWeight,
      n ≤ ((bestPaths parts :: departures parts).map totalWeight).countP (· ≤ heavy) := by
    intro heavy member
    obtain ⟨detour, among, rfl⟩ := List.mem_map.mp member
    rw [List.countP_map]
    exact few.trans (three_le_countP nonempty ascending detour among)
  have weights : Path.weight ∘ joined = totalWeight := rfl
  rw [WeightScale.least_of_many all many, paths_combine nonempty, List.map_map, weights,
    List.map_take, map_totalWeight_ranked, WeightScale.least]

end

/-- Lattices in ascending order are combined to as many paths as are asked for, or to all: first the
best paths joined, then joined paths that leave them for another path of one lattice, none of them
twice. They ascend, and each has the weight of what is joined. Up to three are the lightest of all
that join one path of each lattice. -/
theorem combine_joins_best {parts : List (Lattice ℚ)} (nonempty : ∀ part ∈ parts, part.paths ≠ [])
    (ascending : ∀ part ∈ parts, part.paths.Pairwise fun a b => a.weight ≤ b.weight)
    {n : Nat} (positive : 1 ≤ n) :
    (combine parts n).paths.length = min n (1 + (parts.map fun part => part.paths.length - 1).sum) ∧
    (combine parts n).paths.Pairwise (fun a b => a.weight ≤ b.weight) ∧
    (∃ ways : List (List (Path ℚ)),
      (combine parts n).paths = joined (bestPaths parts) :: ways.map joined ∧
      ways.Subperm (departures parts) ∧ ∀ chosen ∈ ways, DepartsOnce parts chosen) ∧
    (n ≤ 3 → (combine parts n).paths.map Path.weight =
      WeightScale.least n ((List.sections (parts.map Lattice.paths)).map totalWeight)) := by
  refine ⟨?_, ?_, ?_, weights_combine nonempty ascending⟩
  · rw [paths_combine nonempty, List.length_map, List.length_take, ranked, List.length_mergeSort,
      List.length_cons, length_departures nonempty, Nat.add_comm]
  · rw [paths_combine nonempty, List.pairwise_map]
    exact (WeightScale.pairwise_ranked totalWeight _).sublist (List.take_sublist ..)
  · obtain ⟨further, rfl⟩ := Nat.exists_eq_add_of_le' positive
    have among : ((ranked (departures parts)).take further).Subperm (departures parts) :=
      (List.take_sublist ..).subperm.trans (List.mergeSort_perm ..).subperm
    exact ⟨_, paths_combine_succ nonempty ascending further, among,
      fun chosen member => departsOnce_of_mem nonempty (among.subset member)⟩

def monthAndTitle : List (Lattice ℚ) :=
  [⟨[⟨"may".toList, 1⟩, ⟨"the fifth".toList, 3 / 2⟩]⟩,
    ⟨[⟨"doctor".toList, 1 / 2⟩, ⟨"d r".toList, 2⟩, ⟨"drive".toList, 3⟩]⟩]

theorem combine_joins_best_month :
    (combine monthAndTitle 3).paths.length = 3 ∧
    (combine monthAndTitle 3).paths.Pairwise (fun a b => a.weight ≤ b.weight) ∧
    (∃ ways : List (List (Path ℚ)),
      (combine monthAndTitle 3).paths = ⟨"may doctor".toList, 3 / 2⟩ :: ways.map joined ∧
      ways.Subperm (departures monthAndTitle) ∧ ∀ chosen ∈ ways, DepartsOnce monthAndTitle chosen) ∧
    (combine monthAndTitle 3).paths.map Path.weight =
      WeightScale.least 3 ((List.sections (monthAndTitle.map Lattice.paths)).map totalWeight) := by
  have nonempty : ∀ part ∈ monthAndTitle, part.paths ≠ [] := by simp [monthAndTitle]
  have ascending : ∀ part ∈ monthAndTitle, part.paths.Pairwise fun a b => a.weight ≤ b.weight := by
    norm_num [monthAndTitle]
  obtain ⟨length, sorted, first, weights⟩ :=
    combine_joins_best nonempty ascending (n := 3) (by decide)
  have best : bestPaths monthAndTitle = [⟨"may".toList, 1⟩, ⟨"doctor".toList, 1 / 2⟩] := rfl
  have front : joined (bestPaths monthAndTitle) = ⟨"may doctor".toList, 3 / 2⟩ := by
    have weight : totalWeight [⟨"may".toList, 1⟩, ⟨"doctor".toList, 1 / 2⟩] = 3 / 2 := by
      norm_num
    rw [best, joined, weight]
    rfl
  exact ⟨length, sorted, front ▸ first, weights (by decide)⟩

end SpokenForm.Lattice
