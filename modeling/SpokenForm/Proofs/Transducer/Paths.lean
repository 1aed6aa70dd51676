import Mathlib.Data.List.Nodup
import SpokenForm.Proofs.Transducer.Laws

/-! The paths of a machine without loops. They are its runs; and if each label leads one way only, no two of
them write the same. -/
namespace SpokenForm.Transducer

variable {machine : Transducer ℚ} {state : Nat} {ending : Ending ℚ}

theorem extend_eq {S : Type} (arc : Arc ℚ S) (ending : Ending ℚ) :
    extend arc ending = ⟨shown arc.output ++ ending.labels, arc.weight + ending.weight⟩ := by
  by_cases silent : arc.output = 0
  · simp [extend, shown, silent]
  · simp [extend, shown, silent]

theorem labels_extend {S : Type} (arc : Arc ℚ S) (ending : Ending ℚ) :
    (extend arc ending).labels = shown arc.output ++ ending.labels := by rw [extend_eq]

theorem weight_extend {S : Type} (arc : Arc ℚ S) (ending : Ending ℚ) :
    (extend arc ending).weight = arc.weight + ending.weight := by rw [extend_eq]

theorem mem_endingAt : ending ∈ machine.endingAt state ↔
    ∃ weight, machine.final? state = some weight ∧ ending = ⟨[], weight⟩ := by
  rw [endingAt]
  cases machine.final? state with
  | none => simp
  | some weight => simp

theorem mem_endingsThrough {ahead : Nat → List (Ending ℚ)} :
    ending ∈ machine.endingsThrough ahead state ↔ ending ∈ machine.endingAt state ∨
      ∃ arc ∈ machine.arcsOf state, ∃ later ∈ ahead arc.target, extend arc later = ending := by
  simp [endingsThrough]

theorem runs_of_mem_endingsFrom {steps : Nat} (member : ending ∈ machine.endingsFrom steps state) :
    ∃ input, Runs machine state input ending := by
  induction steps generalizing state ending with
  | zero =>
    obtain ⟨weight, accepts, rfl⟩ := mem_endingAt.mp member
    exact ⟨[], .stop accepts⟩
  | succ steps ih =>
    rcases mem_endingsThrough.mp member with here | ⟨arc, leaves, later, listed, rfl⟩
    · obtain ⟨weight, accepts, rfl⟩ := mem_endingAt.mp here
      exact ⟨[], .stop accepts⟩
    · obtain ⟨input, goesOn⟩ := ih listed
      rw [extend_eq]
      exact ⟨_, .move leaves goesOn⟩

theorem mem_endingsFrom_of_runs {height : Nat → Nat}
    (falls : ∀ state, ∀ arc ∈ machine.arcsOf state, height arc.target < height state)
    {input : List Nat} (runs : Runs machine state input ending) {steps : Nat}
    (enough : height state ≤ steps) : ending ∈ machine.endingsFrom steps state := by
  induction runs generalizing steps with
  | @stop state weight accepts =>
    have here : (⟨[], weight⟩ : Ending ℚ) ∈ machine.endingAt state :=
      mem_endingAt.mpr ⟨weight, accepts, rfl⟩
    cases steps with
    | zero => exact here
    | succ steps => exact mem_endingsThrough.mpr (.inl here)
  | @move state arc input ending leaves goesOn ih =>
    have lower := falls state arc leaves
    cases steps with
    | zero => omega
    | succ steps =>
      exact mem_endingsThrough.mpr (.inr ⟨arc, leaves, ending, ih (by omega), extend_eq arc ending⟩)

theorem mem_paths (acyclic : Acyclic machine) : ending ∈ machine.paths ↔ Yields machine ending := by
  obtain ⟨height, bounded, falls⟩ := acyclic.exists_height
  rw [paths]
  cases starts : machine.start? with
  | none => simp [Yields, Accepts, starts]
  | some start =>
    constructor
    · intro member
      obtain ⟨input, runs⟩ := runs_of_mem_endingsFrom member
      exact ⟨input, start, starts, runs⟩
    · rintro ⟨input, other, isStart, runs⟩
      obtain rfl : start = other := Option.some.inj (starts.symm.trans isStart)
      exact mem_endingsFrom_of_runs falls runs (bounded start)

/-! The shortest of some endings. -/

theorem IsShortest.subset {k : Nat} {listed taken : List (Ending ℚ)}
    (shortest : IsShortest k listed taken) {ending : Ending ℚ} (isTaken : ending ∈ taken) : ending ∈ listed := by
  obtain ⟨left, same, -, -⟩ := shortest
  exact same.mem_iff.mp (List.mem_append_left left isTaken)

theorem IsShortest.congr {k : Nat} {all taken listed : List (Ending ℚ)}
    (shortest : IsShortest k all taken) (same : listed.Perm taken) : IsShortest k all listed := by
  obtain ⟨left, whole, length, lighter⟩ := shortest
  exact ⟨left, (same.append_right left).trans whole, same.length_eq.trans length,
    fun ending isListed => lighter ending (same.mem_iff.mp isListed)⟩

/-! Deterministic machines. -/

theorem nodup_labels_endingAt : ((machine.endingAt state).map Ending.labels).Nodup := by
  rw [endingAt]
  cases machine.final? state with
  | none => exact List.nodup_nil
  | some weight => exact List.nodup_singleton _

section Deterministic

variable (copies : ∀ state, ∀ arc ∈ machine.arcsOf state, arc.input = arc.output)
  (plain : Plain machine) (deterministic : Deterministic machine)
include copies plain deterministic

/-- The endings of one arc begin with its label, and those of another arc do not. -/
theorem nodup_labels_endingsFrom (steps state : Nat) :
    ((machine.endingsFrom steps state).map Ending.labels).Nodup := by
  induction steps generalizing state with
  | zero => exact nodup_labels_endingAt
  | succ steps ih =>
    have writes : ∀ arc ∈ machine.arcsOf state, ∀ later : Ending ℚ,
        (extend arc later).labels = arc.input :: later.labels := by
      intro arc leaves later
      have apart : arc.output ≠ 0 := copies state arc leaves ▸ plain state arc leaves
      rw [labels_extend, shown_of_ne apart, copies state arc leaves, List.singleton_append]
    have first : ((machine.arcsOf state).flatMap fun arc =>
        (machine.endingsFrom steps arc.target).map (extend arc)).map Ending.labels =
          (machine.arcsOf state).flatMap fun arc =>
            (machine.endingsFrom steps arc.target).map fun later => arc.input :: later.labels := by
      rw [List.map_flatMap]
      refine List.flatMap_congr fun arc leaves => ?_
      rw [List.map_map]
      exact List.map_congr_left fun later _ => writes arc leaves later
    rw [endingsFrom, endingsThrough, List.map_append, first]
    refine List.nodup_append'.mpr ⟨nodup_labels_endingAt, ?_, ?_⟩
    · rw [List.nodup_flatMap]
      constructor
      · intro arc _
        have apart := (ih arc.target).map (f := (arc.input :: ·)) fun _ _ => List.tail_eq_of_cons_eq
        rw [List.map_map] at apart
        exact apart
      · refine (List.pairwise_map.mp (deterministic state)).imp ?_
        intro arc other different labels member
        rw [List.mem_map]
        rintro ⟨later, -, same⟩
        obtain ⟨earlier, -, rfl⟩ := List.mem_map.mp member
        exact different (List.cons.inj same).1.symm
    · intro labels here there
      obtain ⟨ending, isHere, rfl⟩ := List.mem_map.mp here
      obtain ⟨weight, -, rfl⟩ := mem_endingAt.mp isHere
      obtain ⟨arc, -, isThere⟩ := List.mem_flatMap.mp there
      obtain ⟨later, -, same⟩ := List.mem_map.mp isThere
      cases same

theorem nodup_labels_paths : (machine.paths.map Ending.labels).Nodup := by
  rw [paths]
  cases machine.start? with
  | none => exact List.nodup_nil
  | some start => exact nodup_labels_endingsFrom copies plain deterministic _ start

end Deterministic

end SpokenForm.Transducer
