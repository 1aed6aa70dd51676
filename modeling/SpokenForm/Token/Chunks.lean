import SpokenForm.ConfigurationError
import SpokenForm.Token.Serializations

/-! Chunks of a token sequence. The serializations of a chunk multiply, so a long sequence is cut
into runs whose product stays within a budget. -/
namespace SpokenForm

/-- The most serializations that a chunk may have. -/
structure Budget where
  limit : Nat
  limit_pos : 0 < limit

namespace Budget

/-- A budget of zero allows nothing. -/
def ofLimit (limit : Nat) : Except ConfigurationError Budget :=
  if positive : 0 < limit then .ok ⟨limit, positive⟩ else .error .invalidBudget

/-- Three to the sixth power. -/
def standard : Budget := ⟨729, by decide⟩

/-- Cuts the tokens behind an open chunk, whose tokens stand newest first and have `running`
serializations. A token that fits no chunk is an error. -/
def chunksFrom (budget : Budget) (chunk : List Token) (running : Nat) :
    List Token → Except ConfigurationError (List (List Token))
  | [] => .ok (if chunk.isEmpty then [] else [chunk.reverse])
  | token :: rest =>
    let estimate := Token.arrangementCount token
    if budget.limit < estimate then
      .error (.budgetExceeded estimate budget.limit (Token.serialize token))
    else if !chunk.isEmpty && budget.limit < Count.times running estimate then do
      let later ← budget.chunksFrom [token] (Count.times 1 estimate) rest
      return chunk.reverse :: later
    else budget.chunksFrom (token :: chunk) (Count.times running estimate) rest

/-- Cuts a token sequence from left to right; a chunk ends where the next token would exceed the
budget. -/
def chunks (budget : Budget) (tokens : List Token) :
    Except ConfigurationError (List (List Token)) :=
  budget.chunksFrom [] 1 tokens

end Budget

end SpokenForm
