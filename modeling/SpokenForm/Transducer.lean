import SpokenForm.Grammar
import SpokenForm.Text.Utf8

/-! Weighted transducers on bytes. A label is a byte, and zero stands for no byte. -/
namespace SpokenForm

/-- An arc reads one label, writes another, costs its weight and leads to a state. -/
structure Arc (W S : Type) where
  input : Nat
  output : Nat
  weight : W
  target : S
deriving DecidableEq, Repr

/-- A state may accept, at a weight. -/
structure Node (W : Type) where
  final? : Option W
  arcs : List (Arc W Nat)
deriving DecidableEq, Repr

/-- States are numbered by their places. Without a start nothing is accepted. -/
structure Transducer (W : Type) where
  start? : Option Nat
  nodes : Array (Node W)
deriving DecidableEq, Repr

/-- The labels written on the way from a state to the end, and what they cost. -/
structure Ending (W : Type) where
  labels : List Nat
  weight : W
deriving DecidableEq, Repr

namespace Transducer

variable {W : Type}

/-- Accepts nothing. -/
def nowhere : Transducer W := ⟨none, #[]⟩

def final? (machine : Transducer W) (state : Nat) : Option W :=
  machine.nodes[state]?.bind Node.final?

def arcsOf (machine : Transducer W) (state : Nat) : List (Arc W Nat) :=
  (machine.nodes[state]?.map Node.arcs).getD []

def mapArcs (machine : Transducer W) (change : List (Arc W Nat) → List (Arc W Nat)) : Transducer W :=
  { machine with nodes := machine.nodes.map fun node => { node with arcs := change node.arcs } }

end Transducer

end SpokenForm
