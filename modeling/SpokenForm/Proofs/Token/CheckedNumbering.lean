import SpokenForm.Proofs.Token.MemberSerializations

/-! The numbering with every step checked. A checked step has no result where it would divide by zero,
leave the range of counts or take a number that is none of its token's; and yet a run of any size
gets through, also where its counts are cut off, and yields no text twice. -/
namespace SpokenForm

/-! Arithmetic that fails instead of leaving the range of counts. -/
namespace Count

/-- A quotient, unless the divisor is zero. -/
def quotient? (a b : Nat) : Option Nat := if b = 0 then none else some (a / b)

/-- A remainder, unless the divisor is zero. -/
def remainder? (a b : Nat) : Option Nat := if b = 0 then none else some (a % b)

/-- A sum, unless it exceeds the largest count. -/
def sum? (a b : Nat) : Option Nat := if a + b ≤ largest then some (a + b) else none

/-- A difference, unless it is negative. -/
def difference? (a b : Nat) : Option Nat := if b ≤ a then some (a - b) else none

theorem quotient?_of_pos (a : Nat) {b : Nat} (positive : 0 < b) : quotient? a b = some (a / b) :=
  if_neg (Nat.ne_of_gt positive)

theorem remainder?_of_pos (a : Nat) {b : Nat} (positive : 0 < b) : remainder? a b = some (a % b) :=
  if_neg (Nat.ne_of_gt positive)

end Count

/-- The order with a given number, where an item is picked only at a place that there is. -/
def nthOrderOfSize? {α : Type} : (size : Nat) → (items : List α) → (index : Nat) → Option (List α)
  | 0, _, _ => some []
  | size + 1, items, index => do
    let block := Count.factorial size
    let last ← Count.difference? items.length 1
    let pick := min (← Count.quotient? index block) last
    let item ← items[pick]?
    let order ← nthOrderOfSize? size (items.eraseIdx pick) (← Count.remainder? index block)
    return item :: order

/-- The fields in the order with a given number, which is checked where it is free. -/
def Token.inOrder? (token : Token) (index : Nat) : Option Token :=
  match fieldOrder? token with
  | some names => some (listedFirst names token)
  | none => if preservesOrder token then some token else nthOrderOfSize? token.length token index

mutual

/-- Arranges what is inside a field, where a nested token takes no number but its own. -/
def Field.arrange? : Field → Nat → Option (Field × Nat)
  | .leaf key text, index => some (.leaf key text, index)
  | .flag key value, index => some (.flag key value, index)
  | .nested key fields, index => do
    let count := Count.times (Token.orderCount fields) (Field.arrangementCounts fields)
    let own ← Count.remainder? index count
    guard (own < count)
    let orders := Token.orderCount fields
    let inner ← Field.arrangeEach? fields (← Count.quotient? own orders)
    let ordered ← Token.inOrder? inner (← Count.remainder? own orders)
    return (.nested key ordered, ← Count.quotient? index count)

def Field.arrangeEach? : List Field → Nat → Option (List Field)
  | [], _ => some []
  | field :: rest, index => do
    let (arranged, left) ← field.arrange? index
    return arranged :: (← Field.arrangeEach? rest left)

end

/-- The arrangement with a given number, which has to be one of the token's. -/
def Token.arrange? (token : Token) (index : Nat) : Option Token := do
  guard (index < arrangementCount token)
  let orders := orderCount token
  let inner ← Field.arrangeEach? token (← Count.quotient? index orders)
  inOrder? inner (← Count.remainder? index orders)

def Token.arrangeAll? : List Token → List Nat → Option (List Token)
  | token :: tokens, number :: numbers => do
    return (← token.arrange? number) :: (← arrangeAll? tokens numbers)
  | _, _ => some []

/-- The digits of a number in mixed radix, and what is left of it. -/
def mixedRadix? : List Nat → Nat → Option (List Nat × Nat)
  | [], number => some ([], number)
  | base :: bases, number => do
    let (digits, left) ← mixedRadix? bases number
    return ((← Count.remainder? left base) :: digits, ← Count.quotient? left base)

namespace Serializations

/-- The next serialization, and those behind it. -/
def checkedNext? (run : Serializations) : Option (Option (Text × Serializations)) :=
  if run.next < run.total then do
    let (digits, _) ← mixedRadix? run.counts run.next
    let arranged ← Token.arrangeAll? run.tokens digits
    return some (Token.serializeAll arranged, { run with next := ← Count.sum? run.next 1 })
  else some none

def checkedRemaining? (run : Serializations) : Option Nat := Count.difference? run.total run.next

end Serializations

/-! No check fails. -/

theorem nthOrderOfSize?_eq {α : Type} {size : Nat} {items : List α} (full : items.length = size)
    (index : Nat) : nthOrderOfSize? size items index = some (nthOrderOfSize size items index) := by
  induction size generalizing items index with
  | zero => rfl
  | succ size ih =>
    have last : Count.difference? items.length 1 = some (items.length - 1) := if_pos (by omega)
    have picked : min (index / Count.factorial size) (items.length - 1) < items.length := by omega
    have shorter : (items.eraseIdx (min (index / Count.factorial size) (items.length - 1))).length =
        size := by
      rw [List.length_eraseIdx_of_lt picked]
      omega
    simp [nthOrderOfSize?, nthOrderOfSize, last, Count.quotient?_of_pos _ (Count.factorial_pos size),
      Count.remainder?_of_pos _ (Count.factorial_pos size), picked, ih shorter]

theorem Token.inOrder?_eq (token : Token) (index : Nat) :
    inOrder? token index = some (inOrder token index) := by
  cases listed : fieldOrder? token with
  | some names => simp [inOrder?, inOrder, listed]
  | none =>
    cases preserved : preservesOrder token with
    | true => simp [inOrder?, inOrder, listed, preserved]
    | false => simp [inOrder?, inOrder, listed, preserved, nthOrder, nthOrderOfSize?_eq rfl]

theorem Field.arrangeEach?_of_each {fields : List Field}
    (each : ∀ field ∈ fields, ∀ index, field.arrange? index = some (field.arrange index))
    (index : Nat) : Field.arrangeEach? fields index = some (Field.arrangeEach fields index) := by
  induction fields generalizing index with
  | nil => rfl
  | cons field fields ih =>
    obtain ⟨first, others⟩ := List.forall_mem_cons.mp each
    simp [Field.arrangeEach?, Field.arrangeEach, first, ih others]

theorem Field.arrange?_eq (field : Field) (index : Nat) :
    field.arrange? index = some (field.arrange index) := by
  induction field using Field.inside_induction generalizing index with
  | leaf _ _ | flag _ _ => rfl
  | nested key fields ih =>
    have positive : 0 < Count.times (Token.orderCount fields) (Field.arrangementCounts fields) :=
      Token.arrangementCount_pos fields
    have ordersPositive := Token.orderCount_pos fields
    simp [Field.arrange?, Field.arrange, Count.remainder?_of_pos _ positive,
      Count.quotient?_of_pos _ positive, Nat.mod_lt _ positive,
      Count.remainder?_of_pos _ ordersPositive, Count.quotient?_of_pos _ ordersPositive,
      Field.arrangeEach?_of_each ih, Token.inOrder?_eq]

theorem Token.arrange?_eq {token : Token} {index : Nat} (inside : index < arrangementCount token) :
    arrange? token index = some (arrange token index) := by
  have ordersPositive := orderCount_pos token
  have inner (later : Nat) : Field.arrangeEach? token later = some (Field.arrangeEach token later) :=
    Field.arrangeEach?_of_each (fun field _ => field.arrange?_eq) later
  simp [arrange?, arrange, inside, Count.quotient?_of_pos _ ordersPositive,
    Count.remainder?_of_pos _ ordersPositive, inner, inOrder?_eq]

theorem Token.arrangeAll?_eq {tokens : List Token} {numbers : List Nat}
    (below : List.Forall₂ (· < ·) numbers (tokens.map arrangementCount)) :
    arrangeAll? tokens numbers = some (List.zipWith arrange tokens numbers) := by
  induction tokens generalizing numbers with
  | nil => rfl
  | cons token tokens ih =>
    obtain ⟨number, others, inside, later, rfl⟩ := List.forall₂_cons_right_iff.mp below
    simp [arrangeAll?, arrange?_eq inside, ih later]

theorem mixedRadix?_eq {bases : List Nat} (positive : ∀ base ∈ bases, 0 < base) (number : Nat) :
    mixedRadix? bases number = some (mixedRadix bases number) := by
  induction bases with
  | nil => rfl
  | cons base bases ih =>
    obtain ⟨first, others⟩ := List.forall_mem_cons.mp positive
    simp [mixedRadix?, mixedRadix, ih others, Count.remainder?_of_pos _ first,
      Count.quotient?_of_pos _ first]

namespace Serializations

open TaggedText

/-- The runs that are left of the run of some tokens. -/
inductive LeftOf (tokens : List Token) : Serializations → Prop where
  | start : LeftOf tokens (ofTokens tokens)
  | next {run later : Serializations} {text : Text} (earlier : LeftOf tokens run)
      (yielded : run.next? = some (text, later)) : LeftOf tokens later

theorem next?_eq_some {run later : Serializations} {text : Text}
    (yielded : run.next? = some (text, later)) :
    run.next < run.total ∧ later = { run with next := run.next + 1 } := by
  unfold next? at yielded
  split at yielded
  · rename_i inside
    obtain ⟨-, rfl⟩ := Prod.mk.inj (Option.some.inj yielded)
    exact ⟨inside, rfl⟩
  · cases yielded

/-- No run goes beyond its end. -/
theorem LeftOf.next_le_total {tokens : List Token} {run : Serializations} (left : LeftOf tokens run) :
    run.next ≤ run.total := by
  cases left with
  | start => exact Nat.zero_le _
  | next _ yielded =>
    obtain ⟨inside, rfl⟩ := next?_eq_some yielded
    exact inside

theorem total_le_largest (run : Serializations) : run.total ≤ Count.largest :=
  run.total_le_saturate.trans (Count.saturate_le _)

/-- A run goes on through the checks as it goes on without them. -/
theorem checkedNext?_eq (run : Serializations) : run.checkedNext? = some run.next? := by
  unfold checkedNext? next?
  split
  · rename_i inside
    have arranged := Token.arrangeAll?_eq (mixedRadix_below run.counts_pos run.next)
    have counted : Count.sum? run.next 1 = some (run.next + 1) :=
      if_pos (Nat.le_trans inside run.total_le_largest)
    simp [mixedRadix?_eq run.counts_pos, arranged, counted, item, arrangement]
  · rfl

theorem LeftOf.checkedRemaining?_eq {tokens : List Token} {run : Serializations}
    (left : LeftOf tokens run) : run.checkedRemaining? = some run.remaining :=
  if_pos left.next_le_total

/-- Cutting off the count of a run takes the last of its texts away, and so leaves distinct ones. -/
theorem exists_distinct_yields {tokens : List Token}
    (spelled : ∃ text, TaggedText.parse text = .ok tokens)
    (distinct : ∀ token ∈ tokens, Token.DistinctNames token) :
    ∃ texts, (ofTokens tokens).Yields texts ∧ texts.Nodup := by
  by_cases nothing : tokens = []
  · subst nothing
    exact ⟨[], yields_nil, List.nodup_nil⟩
  · have all := nodup_serializeAll (Token.choicesAll_perm orders_perm_permutations tokens) spelled
      distinct
    exact ⟨_, yields_choices nothing, all.sublist ((List.take_sublist _ _).map _)⟩

/-- Counts are exact numbers cut off at the largest count, and never zero. Wherever a run has got to,
no step towards its next text fails a check, and what it says is still to come does come. With
distinct field names it yields no text twice, even if its count is cut off. -/
theorem counts_saturate_safely (tokens : List Token) :
    (∀ token, 1 ≤ Token.arrangementCount token ∧
      Token.arrangementCount token = min (Token.exactCount token) Count.largest) ∧
    (ofTokens tokens).total =
      (if tokens = [] then 0 else min (Token.exactTotal tokens) Count.largest) ∧
    (∀ run, LeftOf tokens run → run.checkedNext? = some run.next? ∧
      ∃ texts, run.Yields texts ∧ run.checkedRemaining? = some texts.length) ∧
    ((∃ text, TaggedText.parse text = .ok tokens) →
      (∀ token ∈ tokens, Token.DistinctNames token) →
      ∃ texts, (ofTokens tokens).Yields texts ∧ texts.Nodup) := by
  refine ⟨fun token => ⟨token.arrangementCount_pos, token.arrangementCount_eq⟩, ?_, ?_,
    exists_distinct_yields⟩
  · split
    · rename_i nothing
      rw [nothing]
      rfl
    · rename_i nonempty
      exact total_eq nonempty 0
  · intro run left
    have yields := yields_from run
    exact ⟨run.checkedNext?_eq, _, yields, by rw [left.checkedRemaining?_eq, yields.length_eq]⟩

/-- The first letters, more of them than a count can order. -/
def manyLetters : List Char := "abcdefghijklmnopqrstu".toList

def letterBlock : Token :=
  [.nested "tokens".toList (manyLetters.map fun letter => .leaf [letter] [])]

theorem exists_parse_letterBlock : ∃ text, TaggedText.parse text = .ok [letterBlock] := by
  have block : IsName "tokens".toList := ⟨by decide, List.all_eq_true.mp (by decide)⟩
  have letters : ∀ letter ∈ manyLetters, IsName [letter] := by
    have each := List.all_eq_true.mp (show manyLetters.all isKeyChar = true by decide)
    intro letter member
    exact ⟨List.cons_ne_nil _ _, List.forall_mem_singleton.mpr (each letter member)⟩
  refine (exists_parse_iff _).mpr ⟨by simp [letterBlock], fun lexeme among => ?_⟩
  simp only [letterBlock, Field.lexemes, Field.lexemesEach_eq, List.flatten_cons, List.flatten_nil,
    List.append_nil, List.flatMap_cons, List.flatMap_nil, List.flatMap_map, List.mem_cons,
    List.mem_append, List.mem_flatMap, List.not_mem_nil, or_false] at among
  rcases among with rfl | rfl | ⟨letter, member, rfl | rfl | rfl⟩ | rfl
  · exact block
  · trivial
  · exact letters letter member
  · trivial
  · exact Quotable.nil
  · trivial

theorem letterBlock_distinctNames : Token.DistinctNames letterBlock := by
  refine ⟨by decide, fun _ _ member => ?_⟩
  obtain ⟨rfl, rfl⟩ := Field.nested.inj (List.mem_singleton.mp member)
  exact ⟨by decide, by simp⟩

theorem counts_saturate_safely_letters :
    (∃ text, TaggedText.parse text = .ok [letterBlock]) ∧
      (∀ token ∈ [letterBlock], Token.DistinctNames token) ∧
      Count.largest < Token.exactTotal [letterBlock] ∧
      (ofTokens [letterBlock]).total = Count.largest ∧
      ∃ texts, (ofTokens [letterBlock]).Yields texts ∧ texts.Nodup := by
  have distinct : ∀ token ∈ [letterBlock], Token.DistinctNames token :=
    List.forall_mem_singleton.mpr letterBlock_distinctNames
  have exceeds : Count.largest < Token.exactTotal [letterBlock] := by decide +kernel
  obtain ⟨-, total, -, texts⟩ := counts_saturate_safely [letterBlock]
  rw [if_neg (List.cons_ne_nil _ _), Nat.min_eq_right (Nat.le_of_lt exceeds)] at total
  exact ⟨exists_parse_letterBlock, distinct, exceeds, total, texts exists_parse_letterBlock distinct⟩

end Serializations

end SpokenForm
