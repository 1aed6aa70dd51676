import SpokenForm.Proofs.Token.Lexeme
import SpokenForm.Proofs.Token.OrderNumbering

/-! Arrangements of tokens. An arrangement chooses an order for the fields of every token, at every
depth, whose order is not settled. All of them are listed here as products of free choices, and
counted exactly. -/
namespace SpokenForm

open Nat

/-- The orders of a token's fields: the settled one, or those that `free` offers. -/
def Token.ordersBy (free : List Field → List (List Field)) (token : Token) : List Token :=
  match fieldOrder? token with
  | some names => [listedFirst names token]
  | none => if preservesOrder token then [token] else free token

mutual

def Field.choices (free : List Field → List (List Field)) : Field → List Field
  | .leaf key text => [.leaf key text]
  | .flag key value => [.flag key value]
  | .nested key fields =>
    ((Field.choicesEach free fields).flatMap (Token.ordersBy free)).map (.nested key)

def Field.choicesEach (free : List Field → List (List Field)) : List Field → List (List Field)
  | [] => [[]]
  | field :: rest =>
    (Field.choicesEach free rest).flatMap fun others => (field.choices free).map (· :: others)

end

/-- All arrangements of a token: choices inside its fields, then an order of the fields. -/
def Token.choices (free : List Field → List (List Field)) (token : Token) : List Token :=
  (Field.choicesEach free token).flatMap (ordersBy free)

def Token.choicesAll (free : List Field → List (List Field)) : List Token → List (List Token)
  | [] => [[]]
  | token :: rest => (choices free token).flatMap fun first =>
    (choicesAll free rest).map (first :: ·)

def Token.exactOrders (token : Token) : Nat := if isOrderFixed token then 1 else token.length !

mutual

def Field.exactCount : Field → Nat
  | .leaf _ _ => 1
  | .flag _ _ => 1
  | .nested _ fields => Token.exactOrders fields * Field.exactCounts fields

/-- The exact number of combinations of choices inside the fields of a list. -/
def Field.exactCounts : List Field → Nat
  | [] => 1
  | field :: rest => field.exactCount * Field.exactCounts rest

end

/-- The exact number of arrangements of a token: the product, over it and all tokens inside it, of
the numbers of their own orders. -/
def Token.exactCount (token : Token) : Nat := exactOrders token * Field.exactCounts token

def Token.exactTotal (tokens : List Token) : Nat := (tokens.map exactCount).prod

theorem Token.exactTotal_cons (token : Token) (tokens : List Token) :
    exactTotal (token :: tokens) = exactCount token * exactTotal tokens := by
  simp [exactTotal]

theorem Field.exactCounts_eq (fields : List Field) :
    Field.exactCounts fields = (fields.map Field.exactCount).prod := by
  induction fields with
  | nil => rfl
  | cons field fields ih => simp [Field.exactCounts, ih]

theorem Token.exactOrders_pos (token : Token) : 0 < exactOrders token := by
  unfold exactOrders
  split
  · exact Nat.one_pos
  · exact Nat.factorial_pos _

theorem Field.exactCounts_pos_of_each {fields : List Field}
    (each : ∀ field ∈ fields, 0 < field.exactCount) : 0 < Field.exactCounts fields := by
  induction fields with
  | nil => exact Nat.one_pos
  | cons field fields ih =>
    obtain ⟨first, others⟩ := List.forall_mem_cons.mp each
    exact Nat.mul_pos first (ih others)

theorem Field.exactCount_pos (field : Field) : 0 < field.exactCount := by
  induction field using Field.inside_induction with
  | leaf _ _ | flag _ _ => exact Nat.one_pos
  | nested key fields ih =>
    exact Nat.mul_pos (Token.exactOrders_pos fields) (Field.exactCounts_pos_of_each ih)

theorem Field.exactCounts_pos (fields : List Field) : 0 < Field.exactCounts fields :=
  Field.exactCounts_pos_of_each fun field _ => field.exactCount_pos

theorem Token.exactCount_pos (token : Token) : 0 < exactCount token :=
  Nat.mul_pos (exactOrders_pos token) (Field.exactCounts_pos token)

theorem Token.exactTotal_pos (tokens : List Token) : 0 < exactTotal tokens := by
  induction tokens with
  | nil => exact Nat.one_pos
  | cons token tokens ih => exact Nat.mul_pos (exactCount_pos token) ih

theorem Token.orderCount_eq (token : Token) :
    orderCount token = Count.saturate (exactOrders token) := by
  unfold orderCount exactOrders
  split
  · rfl
  · exact Count.factorial_eq _

theorem Token.orderCount_pos (token : Token) : 0 < orderCount token := by
  rw [orderCount_eq]
  exact Count.saturate_pos (exactOrders_pos token)

theorem Field.arrangementCounts_of_each {fields : List Field}
    (each : ∀ field ∈ fields, field.arrangementCount = Count.saturate field.exactCount) :
    Field.arrangementCounts fields = Count.saturate (Field.exactCounts fields) := by
  induction fields with
  | nil => rfl
  | cons field fields ih =>
    obtain ⟨first, others⟩ := List.forall_mem_cons.mp each
    rw [Field.arrangementCounts, first, ih others, Count.times_saturate, Field.exactCounts]

theorem Field.arrangementCount_eq (field : Field) :
    field.arrangementCount = Count.saturate field.exactCount := by
  induction field using Field.inside_induction with
  | leaf _ _ | flag _ _ => rfl
  | nested key fields ih =>
    rw [Field.arrangementCount, Field.arrangementCounts_of_each ih, Token.orderCount_eq,
      Count.times_saturate, Field.exactCount]

/-- The count that a token carries is its exact count, cut off at the largest count. -/
theorem Token.arrangementCount_eq (token : Token) :
    arrangementCount token = Count.saturate (exactCount token) := by
  rw [arrangementCount, orderCount_eq, exactCount,
    Field.arrangementCounts_of_each fun field _ => Field.arrangementCount_eq field,
    Count.times_saturate]

theorem Token.arrangementCount_pos (token : Token) : 0 < arrangementCount token := by
  rw [arrangementCount_eq]
  exact Count.saturate_pos (exactCount_pos token)

theorem Token.product_arrangementCount (tokens : List Token) :
    Count.product (tokens.map arrangementCount) = Count.saturate (exactTotal tokens) := by
  have each : tokens.map arrangementCount = (tokens.map exactCount).map Count.saturate := by
    simp [arrangementCount_eq]
  rw [each, Count.product_eq, exactTotal]

/-! What settles an order shows without looking inside nested tokens. -/

/-- A field without what is inside a nested token. -/
def Field.outline : Field → Field
  | .nested key _ => .nested key []
  | .leaf key text => .leaf key text
  | .flag key value => .flag key value

theorem Field.outline_key (field : Field) : field.outline.key = field.key := by
  cases field <;> rfl

theorem Token.get?_outline (token : Token) (name : Text) :
    get? (token.map Field.outline) name = (get? token name).map Field.outline := by
  rw [get?, get?, List.find?_map]
  congr 2
  funext field
  simp [Field.outline_key]

theorem Token.fieldOrder?_outline (token : Token) :
    fieldOrder? (token.map Field.outline) = fieldOrder? token := by
  rw [fieldOrder?, fieldOrder?, get?_outline]
  rcases get? token fieldOrderKey with _ | ⟨_, _⟩ | ⟨_, _⟩ | ⟨_, _⟩ <;> rfl

theorem Token.preservesOrder_outline (token : Token) :
    preservesOrder (token.map Field.outline) = preservesOrder token := by
  rw [preservesOrder, preservesOrder, get?_outline]
  rcases get? token preserveOrderKey with _ | ⟨_, _⟩ | ⟨_, _⟩ | ⟨_, _⟩ <;> rfl

section

variable {first second : Token} (alike : first.map Field.outline = second.map Field.outline)
include alike

theorem Token.fieldOrder?_congr : fieldOrder? first = fieldOrder? second := by
  rw [← fieldOrder?_outline first, alike, fieldOrder?_outline]

theorem Token.preservesOrder_congr : preservesOrder first = preservesOrder second := by
  rw [← preservesOrder_outline first, alike, preservesOrder_outline]

theorem Token.isOrderFixed_congr : isOrderFixed first = isOrderFixed second := by
  rw [isOrderFixed, isOrderFixed, fieldOrder?_congr alike, preservesOrder_congr alike]

theorem Token.exactOrders_congr : exactOrders first = exactOrders second := by
  have lengths : first.length = second.length := by
    simpa using congrArg List.length alike
  rw [exactOrders, exactOrders, isOrderFixed_congr alike, lengths]

end

variable {free : List Field → List (List Field)}

theorem Field.choices_outline {field chosen : Field} (member : chosen ∈ field.choices free) :
    chosen.outline = field.outline := by
  cases field with
  | leaf _ _ | flag _ _ =>
    obtain rfl := List.mem_singleton.mp member
    rfl
  | nested key fields =>
    obtain ⟨_, _, rfl⟩ := List.mem_map.mp member
    rfl

theorem Field.choicesEach_outline {fields chosen : List Field}
    (member : chosen ∈ Field.choicesEach free fields) :
    chosen.map Field.outline = fields.map Field.outline := by
  induction fields generalizing chosen with
  | nil =>
    obtain rfl := List.mem_singleton.mp member
    rfl
  | cons field fields ih =>
    obtain ⟨others, later, picked⟩ := List.mem_flatMap.mp member
    obtain ⟨first, choice, rfl⟩ := List.mem_map.mp picked
    simp [Field.choices_outline choice, ih later]

end SpokenForm
