import SpokenForm.Proofs.Token.Arrangement

/-! The numbers of arrangements. Free orders are listed by their numbers, and then the arrangement
with a given number is the one at that place among all arrangements. -/
namespace SpokenForm

open Nat

variable {free : List Field → List (List Field)}

/-! The choices inside a token leave its own order free or settled as it was. -/

section

variable {token : Token}

theorem Token.ordersBy_of_fixed (fixed : isOrderFixed token = true) (index : Nat) :
    ordersBy free token = [inOrder token index] := by
  unfold ordersBy inOrder
  cases listed : fieldOrder? token with
  | some names => rfl
  | none =>
    have preserved : preservesOrder token = true := by simpa [isOrderFixed, listed] using fixed
    simp [preserved]

theorem Token.not_listed_of_free (unsettled : isOrderFixed token = false) :
    fieldOrder? token = none ∧ preservesOrder token = false := by
  simpa [isOrderFixed, and_comm] using unsettled

theorem Token.ordersBy_of_free (unsettled : isOrderFixed token = false) :
    ordersBy free token = free token := by
  obtain ⟨notListed, notPreserved⟩ := not_listed_of_free unsettled
  simp [ordersBy, notListed, notPreserved]

theorem Token.inOrder_of_free (unsettled : isOrderFixed token = false) (index : Nat) :
    inOrder token index = nthOrder token index := by
  obtain ⟨notListed, notPreserved⟩ := not_listed_of_free unsettled
  simp [inOrder, notListed, notPreserved]

end

theorem Token.length_ordersBy (token : Token) : (ordersBy orders token).length = exactOrders token := by
  unfold exactOrders
  split
  · rename_i fixed
    rw [ordersBy_of_fixed fixed 0, List.length_singleton]
  · rename_i unsettled
    rw [ordersBy_of_free (by simpa using unsettled), length_orders]

theorem Token.getElem?_ordersBy (token : Token) {index : Nat} (inside : index < exactOrders token)
    (small : index < Count.largest) :
    (ordersBy orders token)[index]? = some (inOrder token index) := by
  cases settled : isOrderFixed token with
  | true =>
    obtain rfl : index = 0 := by simpa [exactOrders, settled] using inside
    rw [ordersBy_of_fixed settled 0]
    rfl
  | false =>
    have numbered : index < token.length ! := by simpa [exactOrders, settled] using inside
    rw [ordersBy_of_free settled, inOrder_of_free settled]
    exact getElem?_orders numbered small

theorem Token.length_choices_of_each {fields : List Field}
    (inside : (Field.choicesEach orders fields).length = Field.exactCounts fields) :
    (choices orders fields).length = exactCount fields := by
  have uniform : ∀ chosen ∈ Field.choicesEach orders fields,
      (ordersBy orders chosen).length = exactOrders fields := by
    intro chosen member
    rw [length_ordersBy, exactOrders_congr (Field.choicesEach_outline member)]
  rw [choices, length_flatMap_of_length uniform, inside, exactCount, Nat.mul_comm]

theorem Field.length_choicesEach_of_each {fields : List Field}
    (each : ∀ field ∈ fields, (field.choices orders).length = field.exactCount) :
    (Field.choicesEach orders fields).length = Field.exactCounts fields := by
  induction fields with
  | nil => rfl
  | cons field fields ih =>
    obtain ⟨first, others⟩ := List.forall_mem_cons.mp each
    have uniform : ∀ rest ∈ Field.choicesEach orders fields,
        ((field.choices orders).map (· :: rest)).length = field.exactCount := by
      simp [first]
    rw [Field.choicesEach, length_flatMap_of_length uniform, ih others, Field.exactCounts,
      Nat.mul_comm]

theorem Field.length_choices (field : Field) :
    (field.choices orders).length = field.exactCount := by
  induction field using Field.inside_induction with
  | leaf _ _ | flag _ _ => rfl
  | nested key fields ih =>
    rw [Field.choices, List.length_map]
    exact Token.length_choices_of_each (Field.length_choicesEach_of_each ih)

theorem Field.length_choicesEach (fields : List Field) :
    (Field.choicesEach orders fields).length = Field.exactCounts fields :=
  Field.length_choicesEach_of_each fun field _ => field.length_choices

theorem Token.length_choices (token : Token) : (choices orders token).length = exactCount token :=
  length_choices_of_each (Field.length_choicesEach token)

theorem Token.length_choicesAll (tokens : List Token) :
    (choicesAll orders tokens).length = exactTotal tokens := by
  induction tokens with
  | nil => rfl
  | cons token tokens ih =>
    have uniform : ∀ first ∈ choices orders token,
        ((choicesAll orders tokens).map (first :: ·)).length = exactTotal tokens := by
      simp [ih]
    rw [choicesAll, length_flatMap_of_length uniform, length_choices, exactTotal_cons]

/-! The arrangement with a given number. -/

theorem Field.arrange_nested (key : Text) (fields : List Field) (index : Nat) :
    (Field.nested key fields).arrange index =
      (.nested key (Token.arrange fields (index % Token.arrangementCount fields)),
        index / Token.arrangementCount fields) := rfl

theorem Field.arrangeEach_cons (field : Field) (fields : List Field) (index : Nat) :
    Field.arrangeEach (field :: fields) index =
      (field.arrange index).1 :: Field.arrangeEach fields (field.arrange index).2 := rfl

theorem Field.arrange_left (field : Field) {index : Nat} (small : index < Count.largest) :
    (field.arrange index).2 = index / field.exactCount := by
  cases field with
  | leaf _ _ | flag _ _ => simp [Field.arrange, Field.exactCount]
  | nested key fields =>
    rw [Field.arrange_nested, Token.arrangementCount_eq, Count.div_saturate small]
    rfl

/-- Below the largest count the number of a token's arrangement is its place among all of them, if
this holds of the combinations of choices inside its fields. -/
theorem Token.getElem?_choices_of_each {fields : List Field} {index : Nat}
    (each : ∀ {later : Nat}, later < Count.largest → later < Field.exactCounts fields →
      (Field.choicesEach orders fields)[later]? = some (Field.arrangeEach fields later))
    (inside : index < exactCount fields) (small : index < Count.largest) :
    (choices orders fields)[index]? = some (arrange fields index) := by
  have ordersPositive := exactOrders_pos fields
  have uniform : ∀ chosen ∈ Field.choicesEach orders fields,
      (ordersBy orders chosen).length = exactOrders fields := by
    intro chosen member
    rw [length_ordersBy, exactOrders_congr (Field.choicesEach_outline member)]
  have below : index / exactOrders fields < Field.exactCounts fields :=
    Nat.div_lt_of_lt_mul inside
  have chosen := each (Nat.lt_of_le_of_lt (Nat.div_le_self ..) small) below
  have outline := Field.choicesEach_outline (List.mem_of_getElem? chosen)
  have place : index % exactOrders fields <
      exactOrders (Field.arrangeEach fields (index / exactOrders fields)) := by
    rw [exactOrders_congr outline]
    exact Nat.mod_lt _ ordersPositive
  have own := getElem?_ordersBy _ place (Nat.lt_of_le_of_lt (Nat.mod_le ..) small)
  rw [choices, getElem?_flatMap_of_length uniform ordersPositive, chosen, Option.bind_some, own,
    arrange, orderCount_eq, Count.div_saturate small, Count.mod_saturate small]

theorem Field.getElem?_choicesEach_of_each {fields : List Field}
    (each : ∀ field ∈ fields, ∀ {index : Nat}, index < Count.largest →
      (field.choices orders)[index % field.exactCount]? = some (field.arrange index).1)
    {index : Nat} (small : index < Count.largest) (inside : index < Field.exactCounts fields) :
    (Field.choicesEach orders fields)[index]? = some (Field.arrangeEach fields index) := by
  induction fields generalizing index with
  | nil =>
    obtain rfl : index = 0 := by simpa [Field.exactCounts] using inside
    rfl
  | cons field fields ih =>
    obtain ⟨first, others⟩ := List.forall_mem_cons.mp each
    have uniform : ∀ rest ∈ Field.choicesEach orders fields,
        ((field.choices orders).map (· :: rest)).length = field.exactCount := by
      simp [Field.length_choices]
    have below : index / field.exactCount < Field.exactCounts fields :=
      Nat.div_lt_of_lt_mul inside
    have later := ih others (Nat.lt_of_le_of_lt (Nat.div_le_self ..) small) below
    rw [Field.choicesEach, getElem?_flatMap_of_length uniform field.exactCount_pos, later,
      Option.bind_some, List.getElem?_map, first small, Field.arrangeEach_cons,
      Field.arrange_left field small, Option.map_some]

theorem Field.getElem?_choices (field : Field) {index : Nat} (small : index < Count.largest) :
    (field.choices orders)[index % field.exactCount]? = some (field.arrange index).1 := by
  induction field using Field.inside_induction generalizing index with
  | leaf key text => simp [Field.choices, Field.arrange, Field.exactCount, Nat.mod_one]
  | flag key value => simp [Field.choices, Field.arrange, Field.exactCount, Nat.mod_one]
  | nested key fields ih =>
    have own : (Token.choices orders fields)[index % Token.exactCount fields]? =
        some (Token.arrange fields (index % Token.exactCount fields)) := by
      refine Token.getElem?_choices_of_each ?_ (Nat.mod_lt _ (Token.exactCount_pos fields))
        (Nat.lt_of_le_of_lt (Nat.mod_le ..) small)
      intro later small inside
      exact Field.getElem?_choicesEach_of_each (fun field member _ => ih field member) small inside
    rw [Field.arrange_nested, Token.arrangementCount_eq, Count.mod_saturate small]
    change ((Token.choices orders fields).map (Field.nested key))[index % Token.exactCount fields]? = _
    rw [List.getElem?_map, own, Option.map_some]

/-- Below the largest count the number of a token's arrangement is its place among all of them. -/
theorem Token.getElem?_choices (token : Token) {index : Nat} (inside : index < exactCount token)
    (small : index < Count.largest) :
    (choices orders token)[index]? = some (arrange token index) := by
  refine getElem?_choices_of_each ?_ inside small
  intro later small inside
  exact Field.getElem?_choicesEach_of_each
    (fun field _ _ => field.getElem?_choices) small inside

/-! Which items there are does not depend on the order in which free orders are listed. -/

theorem Field.choicesEach_perm_of_each {other : List Field → List (List Field)}
    {fields : List Field}
    (each : ∀ field ∈ fields, (field.choices free).Perm (field.choices other)) :
    (Field.choicesEach free fields).Perm (Field.choicesEach other fields) := by
  induction fields with
  | nil => exact .refl _
  | cons field fields ih =>
    obtain ⟨first, others⟩ := List.forall_mem_cons.mp each
    exact (ih others).flatMap fun rest _ => first.map (· :: rest)

section

variable {other : List Field → List (List Field)} (same : ∀ fields, (free fields).Perm (other fields))
include same

theorem Token.ordersBy_perm (token : Token) : (ordersBy free token).Perm (ordersBy other token) := by
  cases settled : isOrderFixed token with
  | true => rw [ordersBy_of_fixed settled 0, ordersBy_of_fixed settled 0]
  | false =>
    rw [ordersBy_of_free settled, ordersBy_of_free settled]
    exact same token

theorem Field.choices_perm (field : Field) :
    (field.choices free).Perm (field.choices other) := by
  induction field using Field.inside_induction with
  | leaf _ _ | flag _ _ => exact .refl _
  | nested key fields ih =>
    exact ((Field.choicesEach_perm_of_each ih).flatMap fun chosen _ =>
      Token.ordersBy_perm same chosen).map (Field.nested key)

theorem Token.choices_perm (token : Token) : (choices free token).Perm (choices other token) :=
  (Field.choicesEach_perm_of_each fun field _ => Field.choices_perm same field).flatMap
    fun chosen _ => ordersBy_perm same chosen

theorem Token.choicesAll_perm (tokens : List Token) :
    (choicesAll free tokens).Perm (choicesAll other tokens) := by
  induction tokens with
  | nil => exact .refl _
  | cons token tokens ih => exact (choices_perm same token).flatMap fun first _ => ih.map (first :: ·)

end

end SpokenForm
