/-! Weights of paths. Everything that ranks or adds weights is stated for any scale of weights; the
program's own scale is that of 32-bit floating-point numbers in their total order. -/
namespace SpokenForm

/-- Weights that can be added, subtracted and ranked. -/
class WeightScale (W : Type) where
  zero : W
  add : W → W → W
  sub : W → W → W
  ranksBefore : W → W → Bool

/-- A 32-bit floating-point number by its bits, so that the signs of zeros and of undefined values
count. -/
structure Weight where
  bits : UInt32
deriving DecidableEq, Repr

namespace Weight

def zero : Weight := ⟨0⟩

/-- The undefined result of an operation on defined numbers; its sign is set. -/
def undefined : Weight := ⟨0xFFC00000⟩

def infinite : Weight := ⟨0x7F800000⟩

/-- Everything but the sign. -/
def magnitude (w : Weight) : Nat := (w.bits &&& 0x7FFFFFFF).toNat

def isNegative (w : Weight) : Bool := w.bits &&& 0x80000000 != 0

def isNaN (w : Weight) : Bool := 0x7F800000 < w.magnitude

/-- An infinite weight without a sign closes a path. -/
def isInfinite (w : Weight) : Bool := w.bits == 0x7F800000

/-- Negates a number; an undefined value keeps its sign. -/
def negate (w : Weight) : Weight := if w.isNaN then w else ⟨w.bits ^^^ 0x80000000⟩

/-- The place in the total order, in which zeros and undefined values are ranked by sign. -/
def rank (w : Weight) : Int :=
  if w.isNegative then -1 - (w.magnitude : Int) else w.magnitude

/-- Rounded addition. An undefined operand is the result, the first one if both are, and infinities
of different signs have no sum. -/
def add (a b : Weight) : Weight :=
  if a.isNaN then ⟨a.bits ||| 0x00400000⟩
  else if b.isNaN then ⟨b.bits ||| 0x00400000⟩
  else
    let sum := Float32.ofBits a.bits + Float32.ofBits b.bits
    if sum.isNaN then undefined else ⟨sum.toBits⟩

def sub (a b : Weight) : Weight := a.add b.negate

/-- The nearest weight to `digits * 10 ^ exponent`. -/
def ofDecimal (negative : Bool) (digits : Nat) (exponent : Int) : Weight :=
  let value := Float32.ofScientific digits (exponent < 0) exponent.natAbs
  ⟨value.toBits ||| if negative then 0x80000000 else 0⟩

instance : WeightScale Weight where
  zero := zero
  add := add
  sub := sub
  ranksBefore a b := a.rank ≤ b.rank

end Weight

end SpokenForm
