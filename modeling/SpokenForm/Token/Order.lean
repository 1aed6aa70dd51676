import SpokenForm.Token
import SpokenForm.Count

/-! Orders of the fields of a token, and the numbering of all orders at all depths. -/
namespace SpokenForm

/-- The order with a given number in the lexicographic list of all orders of `items`, where
`size` is their number. Every choice of a first item heads a block of equally many orders. -/
def nthOrderOfSize {α : Type} : (size : Nat) → (items : List α) → (index : Nat) → List α
  | 0, _, _ => []
  | size + 1, items, index =>
    let block := Count.factorial size
    let pick := min (index / block) (items.length - 1)
    match items[pick]? with
    | some item => item :: nthOrderOfSize size (items.eraseIdx pick) (index % block)
    | none => []

/-- The order with a given number in the lexicographic list of all orders of `items`. -/
def nthOrder {α : Type} (items : List α) (index : Nat) : List α :=
  nthOrderOfSize items.length items index

def Token.take? (name : Text) : Token → Option (Field × Token)
  | [] => none
  | field :: rest =>
    if field.key = name then some (field, rest)
    else (take? name rest).map fun (found, others) => (found, field :: others)

/-- Listed fields come first, in the order of the list; each name takes the next field of that name.
All other fields keep their places behind them. -/
def Token.listedFirst : List Text → Token → Token
  | [], token => token
  | name :: names, token =>
    match take? name token with
    | some (field, others) => field :: listedFirst names others
    | none => listedFirst names token

/-- The fields in the order with a given number; a settled order has one number only. -/
def Token.inOrder (token : Token) (index : Nat) : Token :=
  match fieldOrder? token with
  | some names => listedFirst names token
  | none => if preservesOrder token then token else nthOrder token index

def Token.orderCount (token : Token) : Nat :=
  if isOrderFixed token then 1 else Count.factorial token.length

mutual

def Field.arrangementCount : Field → Nat
  | .leaf _ _ => 1
  | .flag _ _ => 1
  | .nested _ fields => Count.times (Token.orderCount fields) (Field.arrangementCounts fields)

def Field.arrangementCounts : List Field → Nat
  | [] => 1
  | field :: rest => Count.times field.arrangementCount (Field.arrangementCounts rest)

end

/-- The number of arrangements of a token: its own orders times those of all tokens inside. -/
def Token.arrangementCount (token : Token) : Nat :=
  Count.times (orderCount token) (Field.arrangementCounts token)

mutual

/-- Arranges what is inside a field. The number is read digit by digit, and what is left of it goes
to the fields that follow. -/
def Field.arrange : Field → Nat → Field × Nat
  | .leaf key text, index => (.leaf key text, index)
  | .flag key value, index => (.flag key value, index)
  | .nested key fields, index =>
    let count := Count.times (Token.orderCount fields) (Field.arrangementCounts fields)
    let own := index % count
    let orders := Token.orderCount fields
    let inner := Field.arrangeEach fields (own / orders)
    (.nested key (Token.inOrder inner (own % orders)), index / count)

/-- Arranges what is inside the fields of a list; the first nested field changes fastest. -/
def Field.arrangeEach : List Field → Nat → List Field
  | [], _ => []
  | field :: rest, index =>
    let (arranged, left) := field.arrange index
    arranged :: Field.arrangeEach rest left

end

/-- The arrangement with a given number: the token's own order changes fastest, then the fields
inside, first to last. -/
def Token.arrange (token : Token) (index : Nat) : Token :=
  let orders := orderCount token
  inOrder (Field.arrangeEach token (index / orders)) (index % orders)

end SpokenForm
