import SpokenForm.Alignment
import SpokenForm.Text

/-! How alike two texts are, and how far one is from the other, as exact fractions. -/
namespace SpokenForm

/-- A fraction of two numbers. -/
structure Fraction where
  numerator : Nat
  denominator : Nat
deriving DecidableEq, Repr

namespace Fraction

def isLess (a b : Fraction) : Bool := a.numerator * b.denominator < b.numerator * a.denominator

/-- The nearest floating-point number. -/
def toFloat (fraction : Fraction) : Float :=
  fraction.numerator.toFloat / fraction.denominator.toFloat

end Fraction

namespace Similarity

/-- The share of two texts that an alignment finds equal, as an exact fraction; empty texts are equal. -/
def ratio (a b : Text) : Fraction :=
  if a.isEmpty && b.isEmpty then ⟨1, 1⟩
  else ⟨2 * (Alignment.align a b).count .equal, a.length + b.length⟩

/-- Distances of `x :: xs` from each tail of `ys`, where `below` holds those of `xs`. -/
def distanceRow (x : Char) : (ys : Text) → (below : List Nat) → List Nat
  | [], below => [below.headD 0 + 1]
  | y :: ys, below =>
    let right := distanceRow x ys below.tail
    let changed := below.tail.headD 0 + if x = y then 0 else 1
    min changed (min (right.headD 0 + 1) (below.headD 0 + 1)) :: right

/-- The distances of no characters from each tail of a text. -/
def lengthRow : Text → List Nat
  | [] => [0]
  | _ :: rest => (rest.length + 1) :: lengthRow rest

/-- The distances of a text from each tail of another. -/
def distances (target : Text) : Text → List Nat
  | [] => lengthRow target
  | x :: xs => distanceRow x target (distances target xs)

/-- The least number of characters to insert, delete or change. -/
def distance (source target : Text) : Nat := (distances target source).headD 0

/-- Errors of a text by the length of the one it should be. -/
def errorRate (text reference : Text) : Fraction :=
  let errors := distance text reference
  if reference.isEmpty then ⟨if errors = 0 then 0 else 1, 1⟩ else ⟨errors, reference.length⟩

end Similarity

end SpokenForm
