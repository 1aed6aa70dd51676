import SpokenForm.Text
import SpokenForm.Weight

/-! What a grammar answers: output texts with their weights, best first. -/
namespace SpokenForm

/-- An output text and its weight; less is better. -/
structure Path (W : Type) where
  text : Text
  weight : W
deriving BEq, Repr

/-- Paths of ascending weight. -/
structure Lattice (W : Type) where
  paths : List (Path W)
deriving BEq, Repr

namespace Lattice

variable {W : Type}

def empty : Lattice W := ⟨[]⟩

def single (text : Text) (weight : W) : Lattice W := ⟨[⟨text, weight⟩]⟩

/-- Ranks paths by weight; those of one weight keep their order. -/
def ofPaths [WeightScale W] (paths : List (Path W)) : Lattice W :=
  ⟨paths.mergeSort fun a b => WeightScale.ranksBefore a.weight b.weight⟩

def isEmpty (lattice : Lattice W) : Bool := lattice.paths.isEmpty

def shortest? (lattice : Lattice W) : Option Text := lattice.paths.head?.map Path.text

/-- The best `n` distinct output texts, best first. -/
def nBest (lattice : Lattice W) (n : Nat) : List Text :=
  (lattice.paths.map Path.text).eraseDups.take n

/-- The best `n` paths. -/
def truncate (lattice : Lattice W) (n : Nat) : Lattice W := ⟨lattice.paths.take n⟩

end Lattice

end SpokenForm
