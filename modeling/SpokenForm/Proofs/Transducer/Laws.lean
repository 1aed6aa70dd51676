import SpokenForm.Proofs.Transducer.Runs
import SpokenForm.Transducer.Operations

/-! What the steps of an engine are to compute: sorted arcs, acceptors, compositions, projections, machines
without empty labels, deterministic machines and shortest paths, each by its definition. -/
namespace SpokenForm

namespace Transducer

/-- The arcs of every state stand in the order of their inputs. -/
def InOrder (machine : Transducer ℚ) : Prop :=
  ∀ state, (machine.arcsOf state).Pairwise fun arc next => arc.input ≤ next.input

/-- A machine with its arcs in order. -/
structure IsSorting (machine sorted : Transducer ℚ) : Prop where
  start : sorted.start? = machine.start?
  final : ∀ state, sorted.final? state = machine.final? state
  arcs : ∀ state, (sorted.arcsOf state).Perm (machine.arcsOf state)
  inOrder : InOrder sorted

/-- A machine that accepts nothing but given labels. -/
structure IsAcceptor (labels : List Nat) (weight : ℚ) (machine : Transducer ℚ) : Prop where
  accepts_iff : ∀ input ending, Accepts machine input ending ↔
    input = labels.filter (· ≠ 0) ∧ ending = ⟨labels.filter (· ≠ 0), weight⟩
  acyclic : Acyclic machine
  nonNegative : 0 ≤ weight → NonNegative machine

/-- The arcs of pairs of states: both machines move if the second reads what the first one writes, and one
of them moves alone if that is nothing. -/
inductive PairArc (first second : Transducer ℚ) : Nat × Nat → Arc ℚ (Nat × Nat) → Prop where
  | both {state other : Nat} {arc next : Arc ℚ Nat} (leaves : arc ∈ first.arcsOf state)
    (follows : next ∈ second.arcsOf other) (meets : next.input = arc.output) :
    PairArc first second (state, other)
      ⟨arc.input, next.output, arc.weight + next.weight, (arc.target, next.target)⟩
  | first {state other : Nat} {arc : Arc ℚ Nat} (leaves : arc ∈ first.arcsOf state)
    (silent : arc.output = 0) :
    PairArc first second (state, other) ⟨arc.input, 0, arc.weight, (arc.target, other)⟩
  | second {state other : Nat} {arc : Arc ℚ Nat} (leaves : arc ∈ second.arcsOf other)
    (silent : arc.input = 0) :
    PairArc first second (state, other) ⟨0, arc.output, arc.weight, (state, arc.target)⟩

/-- A composition of two machines. Its states stand for pairs of states, and it relates an input to an
output if something between them is written by the one machine and read by the other. -/
structure IsComposition (first second composed : Transducer ℚ) (pair : Nat → Nat × Nat) : Prop where
  start : ∀ start, composed.start? = some start →
    first.start? = some (pair start).1 ∧ second.start? = some (pair start).2
  final : ∀ state weight, composed.final? state = some weight →
    ∃ own other, first.final? (pair state).1 = some own ∧ second.final? (pair state).2 = some other ∧
      weight = own + other
  arc : ∀ state, ∀ arc ∈ composed.arcsOf state,
    PairArc first second (pair state) ⟨arc.input, arc.output, arc.weight, pair arc.target⟩
  complete : ∀ input between output own other, Accepts first input ⟨between, own⟩ →
    Accepts second between ⟨output, other⟩ → Accepts composed input ⟨output, own + other⟩

/-- A machine that reads what another writes. -/
structure IsProjection (machine projected : Transducer ℚ) : Prop where
  start : projected.start? = machine.start?
  final : ∀ state, projected.final? state = machine.final? state
  arcs : ∀ state, projected.arcsOf state =
    (machine.arcsOf state).map fun arc => { arc with input := arc.output }

/-- A machine without loops that writes what it reads, at weights that are not negative. -/
structure Tame (machine : Transducer ℚ) : Prop where
  copies : ∀ state, ∀ arc ∈ machine.arcsOf state, arc.input = arc.output
  acyclic : Acyclic machine
  nonNegative : NonNegative machine

/-- Every arc reads something. -/
def Plain (machine : Transducer ℚ) : Prop :=
  ∀ state, ∀ arc ∈ machine.arcsOf state, arc.input ≠ 0

/-- At every state each label leads one way only. -/
def Deterministic (machine : Transducer ℚ) : Prop :=
  ∀ state, ((machine.arcsOf state).map Arc.input).Nodup

/-- Two machines have the same outputs, with the same least weights. -/
structure SameLeast (machine other : Transducer ℚ) : Prop where
  forth : ∀ ending, Yields machine ending →
    ∃ weight ≤ ending.weight, Yields other ⟨ending.labels, weight⟩
  back : ∀ ending, Yields other ending →
    ∃ weight ≤ ending.weight, Yields machine ⟨ending.labels, weight⟩

theorem SameLeast.trans {first second third : Transducer ℚ} (one : SameLeast first second)
    (two : SameLeast second third) : SameLeast first third where
  forth ending yielded := by
    obtain ⟨weight, lighter, between⟩ := one.forth ending yielded
    obtain ⟨least, lightest, there⟩ := two.forth _ between
    exact ⟨least, lightest.trans lighter, there⟩
  back ending yielded := by
    obtain ⟨weight, lighter, between⟩ := two.back ending yielded
    obtain ⟨least, lightest, there⟩ := one.back _ between
    exact ⟨least, lightest.trans lighter, there⟩

/-- As many endings as are asked for, if there are so many, and none that is left is lighter. -/
def IsShortest (k : Nat) (all taken : List (Ending ℚ)) : Prop :=
  ∃ left, (taken ++ left).Perm all ∧ taken.length = min k all.length ∧
    ∀ ending ∈ taken, ∀ other ∈ left, ending.weight ≤ other.weight

end Transducer

open Transducer

/-- An engine whose steps compute what they are to compute, for machines with weights that are not negative
and without loops that would let them run forever. -/
structure Engine.Lawful (engine : Engine ℚ) : Prop where
  sortArcs : ∀ machine, IsSorting machine (engine.sortArcs machine)
  acceptor : ∀ labels weight, IsAcceptor labels weight (engine.acceptor labels weight)
  compose : ∀ first second, Acyclic first → NonNegative first → Loopless second →
    NonNegative second → InOrder second →
    ∃ composed pair, engine.compose first second = .ok composed ∧
      IsComposition first second composed pair
  projectOutput : ∀ machine, IsProjection machine (engine.projectOutput machine)
  removeEmpty : ∀ machine, Tame machine → ∃ plain, engine.removeEmpty machine = .ok plain ∧
    Tame plain ∧ Plain plain ∧ SameLeast machine plain
  determinize : ∀ machine, Tame machine → Plain machine → ∃ outputs,
    engine.determinize machine = .ok outputs ∧ Tame outputs ∧ Plain outputs ∧
      Deterministic outputs ∧ SameLeast machine outputs
  shortestPaths : ∀ k machine, 0 < k → Tame machine → ∃ best,
    engine.shortestPaths k machine = .ok best ∧ Acyclic best ∧
      IsShortest k machine.paths best.paths
  paths : ∀ machine, Acyclic machine → (engine.paths machine).Perm machine.paths

end SpokenForm
