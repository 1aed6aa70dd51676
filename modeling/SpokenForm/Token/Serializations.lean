import SpokenForm.Token.Order

/-! All serializations of a run of tokens, one number for each, produced one at a time. -/
namespace SpokenForm

/-- The digits of a number in mixed radix, the last base being the least significant, and what is
left of the number in front of them. -/
def mixedRadix : List Nat → Nat → List Nat × Nat
  | [], number => ([], number)
  | base :: bases, number =>
    let (digits, left) := mixedRadix bases number
    (left % base :: digits, left / base)

/-- The tokens of a run, and the number of the serialization that comes next. -/
structure Serializations where
  tokens : List Token
  next : Nat

namespace Serializations

/-- All serializations of a run of tokens, from the first on. -/
def ofTokens (tokens : List Token) : Serializations := ⟨tokens, 0⟩

def counts (run : Serializations) : List Nat := run.tokens.map Token.arrangementCount

/-- The number of all serializations; an empty run has none. -/
def total (run : Serializations) : Nat :=
  if run.tokens.isEmpty then 0 else Count.product run.counts

def remaining (run : Serializations) : Nat := run.total - run.next

/-- The arrangement of the tokens with a given number; the last token changes fastest. -/
def arrangement (run : Serializations) (index : Nat) : List Token :=
  List.zipWith Token.arrange run.tokens (mixedRadix run.counts index).1

def item (run : Serializations) (index : Nat) : Text :=
  Token.serializeAll (run.arrangement index)

/-- The next serialization, and those behind it. -/
def next? (run : Serializations) : Option (Text × Serializations) :=
  if run.next < run.total then some (run.item run.next, { run with next := run.next + 1 })
  else none

/-- Passes over some serializations. -/
def drop (count : Nat) (run : Serializations) : Serializations :=
  { run with next := min (run.next + count) (max run.next run.total) }

/-- At most `count` serializations, and those behind them. -/
def take : (count : Nat) → Serializations → List Text × Serializations
  | 0, run => ([], run)
  | count + 1, run =>
    match run.next? with
    | none => ([], run)
    | some (item, later) =>
      let (items, last) := take count later
      (item :: items, last)

end Serializations

end SpokenForm
