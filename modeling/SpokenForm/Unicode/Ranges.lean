/-! Sets of characters given as ascending ranges of code points. -/
namespace SpokenForm.Unicode

/-- Closed ranges of code points, ascending and apart. -/
abbrev Ranges := List (Nat × Nat)

/-- Looks no further than the first range that ends at or after the code point. -/
def Ranges.contains : Ranges → Nat → Bool
  | [], _ => false
  | (first, last) :: rest, code => if code ≤ last then first ≤ code else contains rest code

end SpokenForm.Unicode
