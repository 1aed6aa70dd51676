import SpokenForm.Transducer

/-! Machines whose states are values of any type, such as pairs or sets of states of other machines. The
states that can be reached are found in rounds, and numbered in the order in which they are found. -/
namespace SpokenForm

/-- The final weights and the arcs of states. -/
structure Plan (S W : Type) where
  final? : S → Option W
  arcs : S → List (Arc W S)

namespace Plan

variable {S W : Type} [BEq S]

/-- The states that arcs lead to from some states, as far as they are not among those found so far. -/
def fresh (plan : Plan S W) (frontier found : List S) : List S :=
  (frontier.flatMap fun state => (plan.arcs state).map Arc.target).eraseDups.filter
    fun state => !found.contains state

/-- Adds the states that can be reached from a frontier, round by round. -/
def explore (plan : Plan S W) : (rounds : Nat) → (frontier found : List S) → List S
  | 0, _, found => found
  | rounds + 1, frontier, found =>
    let fresh := plan.fresh frontier found
    if fresh.isEmpty then found else plan.explore rounds fresh (found ++ fresh)

def node (plan : Plan S W) (states : List S) (state : S) : Node W :=
  ⟨plan.final? state, (plan.arcs state).map fun arc => { arc with target := states.idxOf arc.target }⟩

/-- The machine of some states, which starts with the first. -/
def number (plan : Plan S W) (states : List S) : Transducer W :=
  ⟨some 0, (states.map (plan.node states)).toArray⟩

/-- The machine of all states that can be reached from a start in so many rounds. -/
def build (plan : Plan S W) (rounds : Nat) (start : S) : Transducer W :=
  plan.number (plan.explore rounds [start] [start])

end Plan

end SpokenForm
