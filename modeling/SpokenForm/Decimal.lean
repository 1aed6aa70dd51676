import SpokenForm.Text

/-! Floating-point numbers in decimal notation: the shortest digits that tell a number from all others,
and the closest to it among these. -/
namespace SpokenForm.Decimal

/-- A finite number without its sign, in quarters of a unit in the last place: the number, the ends
of the interval that is rounded to it, whether the ends belong to the interval, and the binary
exponent. -/
structure Interval where
  value : Nat
  lower : Nat
  upper : Nat
  closed : Bool
  exponent : Int
deriving Repr

/-- Significands have 52 bits that are kept, behind one that is not. -/
def hiddenBit : Nat := 0x10000000000000

def significandOf (bits : Nat) : Nat := bits % hiddenBit

/-- The eleven bits of an exponent. -/
def exponentOf (bits : Nat) : Nat := bits / hiddenBit % 0x800

def isFinite (value : Float) : Bool := exponentOf value.toBits.toNat ≠ 0x7FF

/-- Whether a number has a minus sign. Zero may have one. -/
def isNegative (value : Float) : Bool := value.toBits >>> 63 == 1

/-- The interval of a finite number. Below a power of two the neighbours are closer. -/
def intervalOf (value : Float) : Interval :=
  let bits := value.toBits.toNat
  let fraction := significandOf bits
  let exponent := exponentOf bits
  let significand := if exponent = 0 then fraction else fraction + hiddenBit
  let gap := if fraction = 0 && 1 < exponent then 1 else 2
  ⟨4 * significand, 4 * significand - gap, 4 * significand + 2, significand % 2 = 0,
    (max exponent 1 : Nat) - 1077⟩

/-- Both sides of a comparison of `decimal * 10 ^ power` with `binary * 2 ^ exponent`. -/
def sides (decimal : Nat) (power : Int) (binary : Nat) (exponent : Int) : Nat × Nat :=
  (decimal * Nat.pow 10 power.toNat * Nat.pow 2 (-exponent).toNat,
    binary * Nat.pow 2 exponent.toNat * Nat.pow 10 (-power).toNat)

def Interval.holds (interval : Interval) (decimal : Nat) (power : Int) : Bool :=
  let (a, lower) := sides decimal power interval.lower interval.exponent
  let (b, upper) := sides decimal power interval.upper interval.exponent
  if interval.closed then lower ≤ a && b ≤ upper else lower < a && b < upper

/-- The closest number of a decimal grid that lies in an interval; between two equally close ones
the even one. -/
def Interval.closest? (interval : Interval) (power : Int) : Option Nat :=
  let (unit, value) := sides 1 power interval.value interval.exponent
  let below := value / unit
  let rest := value % unit
  let first := if 2 * rest < unit || (2 * rest = unit && below % 2 = 0) then below else below + 1
  let second := 2 * below + 1 - first
  if interval.holds first power then some first
  else if interval.holds second power then some second
  else none

/-- The coarsest of the next `count` grids that has a number in an interval: the number, and the
grid. -/
def Interval.coarsest (interval : Interval) : (count : Nat) → (power : Int) → Nat × Int
  | 0, power => (0, power)
  | count + 1, power =>
    match interval.closest? power with
    | some decimal => (decimal, power)
    | none => interval.coarsest count (power - 1)

/-- A grid that is too coarse for an interval, but not by much: 30103 / 100000 is a little more than
the decimal logarithm of two. -/
def Interval.startPower (interval : Interval) : Int :=
  (interval.upper.log2 + 1 + interval.exponent) * 30103 / 100000 + 1

/-- How many grids there are from the first on to one that the number itself lies on. -/
def Interval.gridCount (interval : Interval) : Nat :=
  (interval.startPower - min interval.exponent 0).toNat + 1

/-- The shortest decimal digits of a finite number that is not zero, and the power of ten that they
are counted in. -/
def shortest (value : Float) : Nat × Int :=
  let interval := intervalOf value
  interval.coarsest interval.gridCount interval.startPower

def zeros (count : Nat) : Text := List.replicate count '0'

/-- Digits, and the place of the point behind the first `point` of them, without an exponent. -/
def positional (digits : Text) (point : Int) : Text :=
  if point ≤ 0 then "0.".toList ++ zeros (-point).toNat ++ digits
  else if digits.length ≤ point.toNat then digits ++ zeros (point.toNat - digits.length) ++ ".0".toList
  else digits.take point.toNat ++ '.' :: digits.drop point.toNat

/-- Digits with the point behind the first, and an exponent. -/
def scientific (digits : Text) (exponent : Int) : Text :=
  digits.take 1 ++ (if digits.length = 1 then [] else '.' :: digits.drop 1) ++
    (if exponent < 0 then "e-" else "e+").toList ++ Nat.toDigits 10 exponent.natAbs

/-- The decimal notation of a finite number. Very large and very small ones have an exponent. -/
def text (value : Float) : Text :=
  let sign : Text := if isNegative value then ['-'] else []
  if (intervalOf value).value = 0 then sign ++ "0.0".toList
  else
    let (number, power) := shortest value
    let digits := Nat.toDigits 10 number
    let exponent := power + digits.length - 1
    sign ++
      if -5 ≤ exponent && exponent < 16 then positional digits (exponent + 1)
      else scientific digits exponent

end SpokenForm.Decimal
