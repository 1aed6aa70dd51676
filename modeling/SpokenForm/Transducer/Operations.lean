import SpokenForm.Transducer.Engine
import SpokenForm.Transducer.Plan

/-! The operations of an engine: products, machines without empty labels, deterministic machines, and the
shortest paths. -/
namespace SpokenForm.Transducer

variable {W : Type} [WeightScale W]

/-- The arcs of every state in the order of their inputs. -/
def sortArcs (machine : Transducer W) : Transducer W :=
  machine.mapArcs fun arcs => arcs.mergeSort fun a b => a.input ≤ b.input

/-- The machine that accepts labels, one after the other, and writes them again. -/
def acceptor (labels : List Nat) (weight : W) : Transducer W where
  start? := some 0
  nodes :=
    let steps := labels.mapIdx fun place label =>
      Node.mk none [⟨label, label, WeightScale.zero, place + 1⟩]
    (steps ++ [Node.mk (some weight) []]).toArray

/-! Products. -/

/-- Two machines, the second of which reads what the first one writes. One of them goes on alone where
nothing is written or read. -/
def product (first second : Transducer W) : Plan (Nat × Nat) W where
  final? := fun (state, other) => do
    return WeightScale.add (← first.final? state) (← second.final? other)
  arcs := fun (state, other) =>
    ((first.arcsOf state).filter (·.output = 0)).map
        (fun arc => ⟨arc.input, 0, arc.weight, (arc.target, other)⟩) ++
      ((second.arcsOf other).filter (·.input = 0)).map
        (fun arc => ⟨0, arc.output, arc.weight, (state, arc.target)⟩) ++
      (first.arcsOf state).flatMap fun arc =>
        ((second.arcsOf other).filter fun next => arc.output ≠ 0 && next.input = arc.output).map
          fun next => ⟨arc.input, next.output, WeightScale.add arc.weight next.weight,
            (arc.target, next.target)⟩

def compose (first second : Transducer W) : Transducer W :=
  match first.start?, second.start? with
  | some start, some other =>
    (product first second).build ((first.nodes.size + 1) * (second.nodes.size + 1)) (start, other)
  | _, _ => nowhere

def projectOutput (machine : Transducer W) : Transducer W :=
  machine.mapArcs fun arcs => arcs.map fun arc => { arc with input := arc.output }

/-! States with weights. -/

/-- States, each with a weight. -/
abbrev Weighted (W : Type) := List (Nat × W)

def least? (weights : List W) : Option W := (weights.mergeSort WeightScale.ranksBefore).head?

def lightest (states : Weighted W) : Weighted W :=
  ((states.mergeSort fun a b => WeightScale.ranksBefore a.2 b.2).eraseDupsBy
    fun a b => a.1 == b.1).mergeSort fun a b => a.1 ≤ b.1

def finalOf? (machine : Transducer W) (states : Weighted W) : Option W :=
  least? (states.filterMap fun (state, weight) => (machine.final? state).map (WeightScale.add weight))

/-- The arcs that leave states, each at the weight of its state and its own. -/
def arcsFrom (machine : Transducer W) (states : Weighted W) : List (Arc W Nat) :=
  states.flatMap fun (state, weight) =>
    (machine.arcsOf state).map fun arc => { arc with weight := WeightScale.add weight arc.weight }

/-! Machines without empty labels. -/

def isEmptyArc {S : Type} (arc : Arc W S) : Bool := arc.input = 0 && arc.output = 0

/-- Adds what is reached by one more arc with empty labels. -/
def relax (machine : Transducer W) (states : Weighted W) : Weighted W :=
  lightest (states ++ ((machine.arcsFrom states).filter isEmptyArc).map
    fun arc => (arc.target, arc.weight))

/-- The states that are reached by so many arcs with empty labels. -/
def emptyClosure [DecidableEq W] (machine : Transducer W) : (rounds : Nat) → Weighted W → Weighted W
  | 0, states => states
  | rounds + 1, states =>
    let relaxed := machine.relax states
    if relaxed = states then states else machine.emptyClosure rounds relaxed

/-- A state that goes on as all states do that are reached from it by arcs with empty labels. -/
def plainNode [DecidableEq W] (machine : Transducer W) (state : Nat) : Node W :=
  let reached := machine.emptyClosure machine.nodes.size [(state, WeightScale.zero)]
  ⟨machine.finalOf? reached, (machine.arcsFrom reached).filter fun arc => !isEmptyArc arc⟩

/-- The machine without its arcs with empty labels. -/
def removeEmpty [DecidableEq W] (machine : Transducer W) : Transducer W where
  start? := machine.start?
  nodes := ((List.range machine.nodes.size).map machine.plainNode).toArray

/-! Deterministic machines. -/

/-- Where a label leads from states. The least weight is paid at once, and each state keeps what it weighs
more. -/
def successor (machine : Transducer W) (states : Weighted W) (label : Nat) : Arc W (Weighted W) :=
  let reached := ((machine.arcsFrom states).filter (·.input = label)).map
    fun arc => (arc.target, arc.weight)
  let paid := (least? (reached.map Prod.snd)).getD WeightScale.zero
  ⟨label, label, paid, lightest (reached.map fun (state, weight) => (state, WeightScale.sub weight paid))⟩

/-- Sets of states with what they weigh more than the path that leads there. -/
def subsets (machine : Transducer W) : Plan (Weighted W) W where
  final? := machine.finalOf?
  arcs states := ((machine.arcsFrom states).map Arc.input).eraseDups.map (machine.successor states)

/-- A machine that has one path for each sequence of labels. -/
def determinize [DecidableEq W] (machine : Transducer W) : Transducer W :=
  match machine.start? with
  | some start => machine.subsets.build (Nat.pow 2 machine.nodes.size) [(start, WeightScale.zero)]
  | none => nowhere

/-! Paths. -/

def extend {S : Type} (arc : Arc W S) (ending : Ending W) : Ending W :=
  ⟨if arc.output = 0 then ending.labels else arc.output :: ending.labels,
    WeightScale.add arc.weight ending.weight⟩

def endingAt (machine : Transducer W) (state : Nat) : List (Ending W) :=
  ((machine.final? state).map (Ending.mk [])).toList

/-- The endings of a state, with those that its arcs lead to. -/
def endingsThrough (machine : Transducer W) (ahead : Nat → List (Ending W)) (state : Nat) :
    List (Ending W) :=
  machine.endingAt state ++ (machine.arcsOf state).flatMap fun arc => (ahead arc.target).map (extend arc)

/-- The endings of all paths from a state with at most so many arcs. -/
def endingsFrom (machine : Transducer W) : (steps : Nat) → (state : Nat) → List (Ending W)
  | 0, state => machine.endingAt state
  | steps + 1, state => machine.endingsThrough (machine.endingsFrom steps) state

/-- The endings of all paths that go around no loop. -/
def paths (machine : Transducer W) : List (Ending W) :=
  (machine.start?.map (machine.endingsFrom machine.nodes.size)).getD []

/-- The `k` lightest endings. -/
def shortest (k : Nat) (endings : List (Ending W)) : List (Ending W) :=
  (endings.mergeSort fun a b => WeightScale.ranksBefore a.weight b.weight).take k

/-- The best endings from states; a state that is missing has none. -/
abbrev Endings (W : Type) := List (Nat × List (Ending W))

def endingsOf (table : Endings W) (state : Nat) : List (Ending W) := (table.lookup state).getD []

/-- The `k` best endings with at most so many arcs, for some states. -/
def shortestFrom (machine : Transducer W) (k : Nat) : (steps : Nat) → (layer : List Nat) → Endings W
  | 0, layer => layer.map fun state => (state, shortest k (machine.endingAt state))
  | steps + 1, layer =>
    if layer.isEmpty then []
    else
      let next := (layer.flatMap fun state => (machine.arcsOf state).map Arc.target).eraseDups
      let there := machine.shortestFrom k steps next
      layer.map fun state => (state, shortest k (machine.endingsThrough (endingsOf there) state))

/-- What is still to be written; there is nothing yet at the start. -/
def spelling (endings : List (Ending W)) : Plan (Option (List Nat)) W where
  final?
    | some [] => some WeightScale.zero
    | _ => none
  arcs
    | none => endings.map fun ending => ⟨0, 0, ending.weight, some ending.labels⟩
    | some (label :: rest) => [⟨label, label, WeightScale.zero, some rest⟩]
    | some [] => []

def ofEndings (endings : List (Ending W)) : Transducer W :=
  (spelling endings).build (endings.flatMap fun ending => 0 :: 0 :: ending.labels).length none

/-- A machine with the `k` shortest paths. Around loops so many suffice that leave out as many turns. -/
def shortestPaths (k : Nat) (machine : Transducer W) : Transducer W :=
  match machine.start? with
  | some start =>
    ofEndings (endingsOf (machine.shortestFrom k (k * (machine.nodes.size + 1)) [start]) start)
  | none => nowhere

end Transducer

/-- The engine that is used. Its steps do not fail. -/
def Engine.standard {W : Type} [WeightScale W] [DecidableEq W] : Engine W where
  sortArcs := Transducer.sortArcs
  acceptor := Transducer.acceptor
  compose first second := .ok (Transducer.compose first second)
  projectOutput := Transducer.projectOutput
  removeEmpty machine := .ok (Transducer.removeEmpty machine)
  determinize machine := .ok (Transducer.determinize machine)
  shortestPaths k machine := .ok (Transducer.shortestPaths k machine)
  paths := Transducer.paths

/-- The best distinct outputs of an input, with the least weights at which they can be had. -/
def Transducer.apply {W : Type} [WeightScale W] [DecidableEq W] (machine : Transducer W) : Grammar W :=
  Engine.standard.grammar machine

end SpokenForm
