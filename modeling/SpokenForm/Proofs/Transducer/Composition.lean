import Mathlib.Tactic.Ring
import SpokenForm.Proofs.Transducer.Laws

/-! Sorted machines, compositions and projections. A run of a composition is a run of each machine, and it
ends if the first machine has no loops and the second none that read nothing. -/
namespace SpokenForm.Transducer

variable {machine sorted first second composed projected : Transducer ℚ} {pair : Nat → Nat × Nat}

/-! Sorted arcs. -/

namespace IsSorting

variable (isSorting : IsSorting machine sorted)
include isSorting

theorem mem_arcsOf {state : Nat} {arc : Arc ℚ Nat} :
    arc ∈ sorted.arcsOf state ↔ arc ∈ machine.arcsOf state := (isSorting.arcs state).mem_iff

theorem runs {state : Nat} {input : List Nat} {ending : Ending ℚ}
    (runs : Runs sorted state input ending) : Runs machine state input ending := by
  induction runs with
  | stop accepts => exact .stop (isSorting.final _ ▸ accepts)
  | move leaves goesOn ih => exact .move (isSorting.mem_arcsOf.mp leaves) ih

theorem runs_of {state : Nat} {input : List Nat} {ending : Ending ℚ}
    (runs : Runs machine state input ending) : Runs sorted state input ending := by
  induction runs with
  | stop accepts => exact .stop ((isSorting.final _).trans accepts)
  | move leaves goesOn ih => exact .move (isSorting.mem_arcsOf.mpr leaves) ih

theorem accepts_iff {input : List Nat} {ending : Ending ℚ} :
    Accepts sorted input ending ↔ Accepts machine input ending := by
  simp only [Accepts, isSorting.start]
  exact exists_congr fun start => and_congr_right fun _ => ⟨isSorting.runs, isSorting.runs_of⟩

theorem loopless (loopless : Loopless machine) : Loopless sorted := by
  have same : Silent sorted ≤ Silent machine := by
    rintro state next ⟨arc, leaves, rest⟩
    exact ⟨arc, isSorting.mem_arcsOf.mp leaves, rest⟩
  exact fun state around => loopless state (Relation.TransGen.mono same _ _ around)

theorem nonNegative (nonNegative : NonNegative machine) : NonNegative sorted where
  final state weight accepts := nonNegative.final state weight (isSorting.final state ▸ accepts)
  arc state arc leaves := nonNegative.arc state arc (isSorting.mem_arcsOf.mp leaves)

end IsSorting

/-! Pairs of states. -/

/-- The height of a pair: a move of the first machine counts more than all moves of the second one that
read nothing. -/
def pairHeight (own other : Nat → Nat) (bound : Nat) (states : Nat × Nat) : Nat :=
  own states.1 * (bound + 1) + other states.2

theorem PairArc.falls {own other : Nat → Nat} {bound : Nat} {states : Nat × Nat}
    {arc : Arc ℚ (Nat × Nat)} (isArc : PairArc first second states arc)
    (ownFalls : ∀ state, ∀ arc ∈ first.arcsOf state, own arc.target < own state)
    (otherFalls : ∀ state, ∀ arc ∈ second.arcsOf state, arc.input = 0 → other arc.target < other state)
    (bounded : ∀ state, other state ≤ bound) :
    pairHeight own other bound arc.target < pairHeight own other bound states := by
  -- a move of the first machine lowers the height by what the second one can add at most
  have moves {state next : Nat} (lower : own next < own state) (place start : Nat) :
      own next * (bound + 1) + other place < own state * (bound + 1) + other start := by
    have room : (own next + 1) * (bound + 1) ≤ own state * (bound + 1) := Nat.mul_le_mul_right _ lower
    have small := bounded place
    rw [Nat.add_mul, Nat.one_mul] at room
    omega
  cases isArc with
  | both leaves follows meets => exact moves (ownFalls _ _ leaves) _ _
  | first leaves silent => exact moves (ownFalls _ _ leaves) _ _
  | second leaves silent => exact Nat.add_lt_add_left (otherFalls _ _ leaves silent) _

/-- No pair of states is left for ever if the first machine has no loops and the second none that read
nothing. -/
theorem exists_pairHeight (acyclic : Acyclic first) (loopless : Loopless second) :
    ∃ height : Nat × Nat → Nat,
      (∀ states, height states < (first.nodes.size + 1) * (second.nodes.size + 1)) ∧
        ∀ states arc, PairArc first second states arc → height arc.target < height states := by
  obtain ⟨own, ownBound, ownFalls⟩ := acyclic.exists_height
  obtain ⟨other, otherBound, otherFalls⟩ := loopless.exists_height
  refine ⟨pairHeight own other second.nodes.size, ?_, ?_⟩
  · intro states
    have whole : own states.1 * (second.nodes.size + 1) ≤
        first.nodes.size * (second.nodes.size + 1) := Nat.mul_le_mul_right _ (ownBound states.1)
    have rest := otherBound states.2
    rw [pairHeight, Nat.add_mul, Nat.one_mul]
    omega
  · intro states arc isArc
    exact isArc.falls ownFalls otherFalls otherBound

/-! Compositions. -/

/-- A way through both machines at once. -/
def RunsBoth (first second : Transducer ℚ) (states : Nat × Nat) (input : List Nat) (ending : Ending ℚ) :
    Prop :=
  ∃ between own other, Runs first states.1 input ⟨between, own⟩ ∧
    Runs second states.2 between ⟨ending.labels, other⟩ ∧ ending.weight = own + other

theorem PairArc.runsBoth {states : Nat × Nat} {arc : Arc ℚ (Nat × Nat)}
    (isArc : PairArc first second states arc) {input : List Nat} {ending : Ending ℚ}
    (later : RunsBoth first second arc.target input ending) :
    RunsBoth first second states (shown arc.input ++ input)
      ⟨shown arc.output ++ ending.labels, arc.weight + ending.weight⟩ := by
  obtain ⟨between, own, other, goesOn, alsoGoesOn, weight⟩ := later
  cases isArc with
  | @both _ _ arc next leaves follows meets =>
    refine ⟨shown arc.output ++ between, arc.weight + own, next.weight + other, .move leaves goesOn, ?_, ?_⟩
    · rw [← meets]
      exact .move follows alsoGoesOn
    · simp only [weight]
      ring
  | @first _ _ arc leaves silent =>
    refine ⟨between, arc.weight + own, other, ?_, alsoGoesOn, ?_⟩
    · simpa [silent] using Runs.move leaves goesOn
    · simp only [weight]
      ring
  | @second _ _ arc leaves silent =>
    refine ⟨between, own, arc.weight + other, goesOn, ?_, ?_⟩
    · simpa [silent] using Runs.move leaves alsoGoesOn
    · simp only [weight]
      ring

theorem PairArc.nonNegative {states : Nat × Nat} {arc : Arc ℚ (Nat × Nat)}
    (isArc : PairArc first second states arc) (own : NonNegative first) (other : NonNegative second) :
    0 ≤ arc.weight := by
  cases isArc with
  | both leaves follows meets => exact add_nonneg (own.arc _ _ leaves) (other.arc _ _ follows)
  | first leaves silent => exact own.arc _ _ leaves
  | second leaves silent => exact other.arc _ _ leaves

namespace IsComposition

variable (isComposition : IsComposition first second composed pair)
include isComposition

theorem runsBoth {state : Nat} {input : List Nat} {ending : Ending ℚ}
    (runs : Runs composed state input ending) : RunsBoth first second (pair state) input ending := by
  induction runs with
  | stop accepts =>
    obtain ⟨own, other, ownAccepts, otherAccepts, rfl⟩ := isComposition.final _ _ accepts
    exact ⟨[], own, other, .stop ownAccepts, .stop otherAccepts, rfl⟩
  | move leaves goesOn ih => exact (isComposition.arc _ _ leaves).runsBoth ih

theorem exists_accepts {input : List Nat} {ending : Ending ℚ} (accepts : Accepts composed input ending) :
    ∃ between own other, Accepts first input ⟨between, own⟩ ∧
      Accepts second between ⟨ending.labels, other⟩ ∧ ending.weight = own + other := by
  obtain ⟨start, isStart, runs⟩ := accepts
  obtain ⟨own, other⟩ := isComposition.start start isStart
  obtain ⟨between, ownWeight, otherWeight, ownRuns, otherRuns, weight⟩ := isComposition.runsBoth runs
  exact ⟨between, ownWeight, otherWeight, ⟨_, own, ownRuns⟩, ⟨_, other, otherRuns⟩, weight⟩

theorem acyclic (acyclic : Acyclic first) (loopless : Loopless second) : Acyclic composed := by
  obtain ⟨height, -, falls⟩ := exists_pairHeight acyclic loopless
  refine acyclic_of_height (fun state => height (pair state)) ?_
  intro state arc leaves
  exact falls _ _ (isComposition.arc state arc leaves)

theorem nonNegative (own : NonNegative first) (other : NonNegative second) : NonNegative composed where
  final state weight accepts := by
    obtain ⟨ownWeight, otherWeight, ownAccepts, otherAccepts, rfl⟩ :=
      isComposition.final state weight accepts
    exact add_nonneg (own.final _ _ ownAccepts) (other.final _ _ otherAccepts)
  arc state arc leaves := by
    exact (isComposition.arc state arc leaves).nonNegative own other

end IsComposition

/-! Projections. -/

namespace IsProjection

variable (isProjection : IsProjection machine projected)
include isProjection

theorem mem_arcsOf {state : Nat} {arc : Arc ℚ Nat} : arc ∈ projected.arcsOf state ↔
    ∃ original ∈ machine.arcsOf state, { original with input := original.output } = arc := by
  rw [isProjection.arcs, List.mem_map]

theorem exists_runs {state : Nat} {input : List Nat} {ending : Ending ℚ}
    (runs : Runs projected state input ending) : ∃ original, Runs machine state original ending := by
  induction runs with
  | stop accepts => exact ⟨[], .stop (isProjection.final _ ▸ accepts)⟩
  | move leaves goesOn ih =>
    obtain ⟨arc, isArc, rfl⟩ := isProjection.mem_arcsOf.mp leaves
    obtain ⟨original, later⟩ := ih
    exact ⟨shown arc.input ++ original, .move isArc later⟩

theorem runs_of {state : Nat} {input : List Nat} {ending : Ending ℚ}
    (runs : Runs machine state input ending) : ∃ input, Runs projected state input ending := by
  induction runs with
  | stop accepts => exact ⟨[], .stop ((isProjection.final _).trans accepts)⟩
  | @move state arc input ending leaves goesOn ih =>
    obtain ⟨copied, later⟩ := ih
    have isArc := isProjection.mem_arcsOf.mpr ⟨arc, leaves, rfl⟩
    exact ⟨shown arc.output ++ copied, .move isArc later⟩

theorem yields_iff {ending : Ending ℚ} : Yields projected ending ↔ Yields machine ending := by
  constructor
  · rintro ⟨input, start, isStart, runs⟩
    obtain ⟨original, later⟩ := isProjection.exists_runs runs
    exact ⟨original, start, isProjection.start ▸ isStart, later⟩
  · rintro ⟨input, start, isStart, runs⟩
    obtain ⟨copied, later⟩ := isProjection.runs_of runs
    exact ⟨copied, start, isProjection.start.trans isStart, later⟩

theorem tame (acyclic : Acyclic machine) (nonNegative : NonNegative machine) : Tame projected where
  copies state arc leaves := by
    obtain ⟨original, -, rfl⟩ := isProjection.mem_arcsOf.mp leaves
    rfl
  acyclic := by
    obtain ⟨height, -, falls⟩ := acyclic.exists_height
    refine acyclic_of_height height ?_
    intro state arc leaves
    obtain ⟨original, isArc, rfl⟩ := isProjection.mem_arcsOf.mp leaves
    exact falls state original isArc
  nonNegative :=
    { final := fun state weight accepts => nonNegative.final state weight (isProjection.final state ▸ accepts)
      arc := by
        intro state arc leaves
        obtain ⟨original, isArc, rfl⟩ := isProjection.mem_arcsOf.mp leaves
        exact nonNegative.arc state original isArc }

end IsProjection

end SpokenForm.Transducer
