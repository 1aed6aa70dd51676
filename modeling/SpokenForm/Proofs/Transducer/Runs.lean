import Mathlib.Data.Finset.Card
import Mathlib.Data.Finset.Range
import Mathlib.Logic.Relation
import SpokenForm.Proofs.ExactWeight
import SpokenForm.Transducer

/-! Runs of a transducer with exact weights, and transducers whose arcs lead around no loop. Along arcs
that lead around no loop a height falls, which is not above the number of states. -/
namespace SpokenForm.Transducer

open Relation

variable {W : Type} {machine : Transducer W} {state : Nat}

/-! Arcs and final weights. -/

theorem lt_size_of_mem {arc : Arc W Nat} (leaves : arc ∈ machine.arcsOf state) :
    state < machine.nodes.size := by
  by_contra outside
  simp [arcsOf, Array.getElem?_eq_none (Nat.le_of_not_lt outside)] at leaves

theorem lt_size_of_final {weight : W} (accepts : machine.final? state = some weight) :
    state < machine.nodes.size := by
  by_contra outside
  simp [final?, Array.getElem?_eq_none (Nat.le_of_not_lt outside)] at accepts

theorem final?_mapArcs (change : List (Arc W Nat) → List (Arc W Nat)) :
    (machine.mapArcs change).final? state = machine.final? state := by
  simp only [final?, mapArcs, Array.getElem?_map]
  cases machine.nodes[state]? <;> rfl

theorem arcsOf_mapArcs {change : List (Arc W Nat) → List (Arc W Nat)} (nothing : change [] = []) :
    (machine.mapArcs change).arcsOf state = change (machine.arcsOf state) := by
  simp only [arcsOf, mapArcs, Array.getElem?_map]
  cases machine.nodes[state]? with
  | none => exact nothing.symm
  | some node => rfl

@[simp] theorem final?_nowhere : (nowhere : Transducer W).final? state = none := by simp [final?, nowhere]

@[simp] theorem arcsOf_nowhere : (nowhere : Transducer W).arcsOf state = [] := by simp [arcsOf, nowhere]

/-! Loops. -/

def Leads (machine : Transducer W) (state next : Nat) : Prop :=
  ∃ arc ∈ machine.arcsOf state, arc.target = next

/-- An arc without input leads from one state to another. -/
def Silent (machine : Transducer W) (state next : Nat) : Prop :=
  ∃ arc ∈ machine.arcsOf state, arc.input = 0 ∧ arc.target = next

/-- Arcs lead around no loop. -/
def Acyclic (machine : Transducer W) : Prop := ∀ state, ¬ TransGen (Leads machine) state state

/-- Arcs without input lead around no loop. -/
def Loopless (machine : Transducer W) : Prop := ∀ state, ¬ TransGen (Silent machine) state state

theorem loopless_of_falling {α : Type} {leads : α → α → Prop} (height : α → Nat)
    (falls : ∀ state next, leads state next → height next < height state) (state : α) :
    ¬ TransGen leads state state := by
  have lower {state next : α} (reached : TransGen leads state next) : height next < height state := by
    induction reached with
    | single step => exact falls _ _ step
    | tail _ step ih => exact (falls _ _ step).trans ih
  exact fun around => lt_irrefl _ (lower around)

open Classical in
/-- The number of states among the first so many that a state leads to, itself included. -/
noncomputable def heightBy (leads : Nat → Nat → Prop) (size state : Nat) : Nat :=
  ((Finset.range size).filter fun next => ReflTransGen leads state next).card

theorem heightBy_le (leads : Nat → Nat → Prop) (size state : Nat) : heightBy leads size state ≤ size := by
  classical
  exact (Finset.card_filter_le _ _).trans_eq (Finset.card_range size)

theorem heightBy_lt {leads : Nat → Nat → Prop} {size state next : Nat} (inside : state < size)
    (acyclic : ¬ TransGen leads state state) (step : leads state next) :
    heightBy leads size next < heightBy leads size state := by
  classical
  apply Finset.card_lt_card
  rw [Finset.ssubset_iff_of_subset]
  · refine ⟨state, by simpa using ⟨inside, ReflTransGen.refl⟩, ?_⟩
    intro back
    exact acyclic (.head' step (Finset.mem_filter.mp back).2)
  · intro other reached
    obtain ⟨small, later⟩ := Finset.mem_filter.mp reached
    exact Finset.mem_filter.mpr ⟨small, .head step later⟩

/-- Along the arcs of a machine without loops a height falls. -/
theorem Acyclic.exists_height (acyclic : Acyclic machine) : ∃ height : Nat → Nat,
    (∀ state, height state ≤ machine.nodes.size) ∧
      ∀ state, ∀ arc ∈ machine.arcsOf state, height arc.target < height state := by
  refine ⟨heightBy (Leads machine) machine.nodes.size, heightBy_le _ _, ?_⟩
  intro state arc leaves
  exact heightBy_lt (lt_size_of_mem leaves) (acyclic state) ⟨arc, leaves, rfl⟩

/-- Along arcs without input a height falls, if they lead around no loop. -/
theorem Loopless.exists_height (loopless : Loopless machine) : ∃ height : Nat → Nat,
    (∀ state, height state ≤ machine.nodes.size) ∧
      ∀ state, ∀ arc ∈ machine.arcsOf state, arc.input = 0 → height arc.target < height state := by
  refine ⟨heightBy (Silent machine) machine.nodes.size, heightBy_le _ _, ?_⟩
  intro state arc leaves silent
  exact heightBy_lt (lt_size_of_mem leaves) (loopless state) ⟨arc, leaves, silent, rfl⟩

theorem acyclic_of_height (height : Nat → Nat)
    (falls : ∀ state, ∀ arc ∈ machine.arcsOf state, height arc.target < height state) :
    Acyclic machine := by
  apply loopless_of_falling height
  rintro state next ⟨arc, leaves, rfl⟩
  exact falls state arc leaves

/-- Where arcs that read nothing lead to higher states only, they lead around no loop. -/
theorem loopless_of_ascending (ascending : ∀ state < machine.nodes.size, ∀ arc ∈ machine.arcsOf state,
    arc.input = 0 → state < arc.target) : Loopless machine := by
  have above {state next : Nat} (reached : TransGen (Silent machine) state next) : state < next := by
    induction reached with
    | single silent =>
      obtain ⟨arc, leaves, reads, rfl⟩ := silent
      exact ascending _ (lt_size_of_mem leaves) arc leaves reads
    | tail _ silent ih =>
      obtain ⟨arc, leaves, reads, rfl⟩ := silent
      exact ih.trans (ascending _ (lt_size_of_mem leaves) arc leaves reads)
  exact fun state around => lt_irrefl state (above around)

/-! Runs. -/

/-- The label of an arc, if it is not empty. -/
def shown (label : Nat) : List Nat := if label = 0 then [] else [label]

@[simp] theorem shown_zero : shown 0 = [] := rfl

theorem shown_of_ne {label : Nat} (apart : label ≠ 0) : shown label = [label] := if_neg apart

theorem filter_cons_eq (label : Nat) (labels : List Nat) :
    (label :: labels).filter (· ≠ 0) = shown label ++ labels.filter (· ≠ 0) := by
  by_cases empty : label = 0
  · simp [shown, empty]
  · simp [shown, empty]

/-- The ways from a state to acceptance that read a given input: what they write, and what they cost. -/
inductive Runs (machine : Transducer ℚ) : Nat → List Nat → Ending ℚ → Prop where
  | stop {state : Nat} {weight : ℚ} (accepts : machine.final? state = some weight) :
    Runs machine state [] ⟨[], weight⟩
  | move {state : Nat} {arc : Arc ℚ Nat} {input : List Nat} {ending : Ending ℚ}
    (leaves : arc ∈ machine.arcsOf state) (goesOn : Runs machine arc.target input ending) :
    Runs machine state (shown arc.input ++ input)
      ⟨shown arc.output ++ ending.labels, arc.weight + ending.weight⟩

def Accepts (machine : Transducer ℚ) (input : List Nat) (ending : Ending ℚ) : Prop :=
  ∃ start, machine.start? = some start ∧ Runs machine start input ending

/-- The outputs of runs, whatever they read. -/
def Yields (machine : Transducer ℚ) (ending : Ending ℚ) : Prop := ∃ input, Accepts machine input ending

theorem not_accepts_of_start {machine : Transducer ℚ} (none : machine.start?.isNone = true)
    (input : List Nat) (ending : Ending ℚ) : ¬ Accepts machine input ending := by
  rintro ⟨start, isStart, -⟩
  simp [isStart] at none

/-- No run reads an empty label. -/
theorem Runs.zero_notMem {machine : Transducer ℚ} {state : Nat} {input : List Nat} {ending : Ending ℚ}
    (runs : Runs machine state input ending) : 0 ∉ input := by
  induction runs with
  | stop accepts => exact List.not_mem_nil
  | @move state arc input ending leaves goesOn ih =>
    by_cases silent : arc.input = 0
    · simpa [shown, silent] using ih
    · simpa [shown, silent, Ne.symm silent] using ih

/-- No run writes an empty label. -/
theorem Runs.zero_notMem_labels {machine : Transducer ℚ} {state : Nat} {input : List Nat}
    {ending : Ending ℚ} (runs : Runs machine state input ending) : 0 ∉ ending.labels := by
  induction runs with
  | stop accepts => exact List.not_mem_nil
  | @move state arc input ending leaves goesOn ih =>
    by_cases silent : arc.output = 0
    · simpa [shown, silent] using ih
    · simpa [shown, silent, Ne.symm silent] using ih

/-- No weight is below zero. -/
structure NonNegative (machine : Transducer ℚ) : Prop where
  final : ∀ state weight, machine.final? state = some weight → 0 ≤ weight
  arc : ∀ state, ∀ arc ∈ machine.arcsOf state, 0 ≤ arc.weight

theorem nonNegative_of_nodes {machine : Transducer ℚ}
    (final : ∀ state < machine.nodes.size, (machine.final? state).all (0 ≤ ·))
    (arc : ∀ state < machine.nodes.size, ∀ arc ∈ machine.arcsOf state, 0 ≤ arc.weight) :
    NonNegative machine where
  final state weight accepts := by
    simpa [accepts] using final state (lt_size_of_final accepts)
  arc state move leaves := arc state (lt_size_of_mem leaves) move leaves

end SpokenForm.Transducer
