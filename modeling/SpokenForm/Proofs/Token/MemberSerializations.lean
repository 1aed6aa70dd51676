import Mathlib.Tactic.Ring
import SpokenForm.Proofs.Token.Rearrangement

/-! The serializations of a run by those of its tokens. The digits of a number, one for each token, are
the numbers of the tokens' own serializations; and every digit of the first number is zero, which is
the number of the source order. -/
namespace SpokenForm

/-- The number that digits stand for, the last base being the least significant. -/
def mixedValue : List Nat → List Nat → Nat
  | _ :: bases, digit :: digits => digit * bases.prod + mixedValue bases digits
  | _, _ => 0

/-- The digits of a number in mixed radix, one below each base. -/
structure IsMixedRadix (bases : List Nat) (number : Nat) (digits : List Nat) : Prop where
  below : List.Forall₂ (· < ·) digits bases
  value : mixedValue bases digits = number

theorem mixedRadix_below {bases : List Nat} (positive : ∀ base ∈ bases, 0 < base) (number : Nat) :
    List.Forall₂ (· < ·) (mixedRadix bases number).1 bases := by
  induction bases with
  | nil => exact .nil
  | cons base bases ih =>
    obtain ⟨first, others⟩ := List.forall_mem_cons.mp positive
    exact .cons (Nat.mod_lt _ first) (ih others)

/-- Digits and what is left in front of them make up the number. -/
theorem mixedValue_add_left (bases : List Nat) (number : Nat) :
    mixedValue bases (mixedRadix bases number).1 + (mixedRadix bases number).2 * bases.prod =
      number := by
  induction bases with
  | nil => simp [mixedRadix, mixedValue]
  | cons base bases ih =>
    generalize left : (mixedRadix bases number).2 = rest at ih
    have split := Nat.div_add_mod rest base
    calc mixedValue (base :: bases) (mixedRadix (base :: bases) number).1 +
          (mixedRadix (base :: bases) number).2 * (base :: bases).prod
        = (base * (rest / base) + rest % base) * bases.prod +
            mixedValue bases (mixedRadix bases number).1 := by
          simp only [mixedRadix, mixedValue, left, List.prod_cons]
          ring
      _ = number := by rw [split, Nat.add_comm, ih]

theorem isMixedRadix_of_lt {bases : List Nat} (positive : ∀ base ∈ bases, 0 < base) {number : Nat}
    (inside : number < bases.prod) : IsMixedRadix bases number (mixedRadix bases number).1 := by
  refine ⟨mixedRadix_below positive number, ?_⟩
  have whole := mixedValue_add_left bases number
  have nothing : (mixedRadix bases number).2 = 0 := by
    by_contra more
    have much : bases.prod ≤ (mixedRadix bases number).2 * bases.prod :=
      Nat.le_mul_of_pos_left _ (Nat.pos_of_ne_zero more)
    omega
  rwa [nothing, Nat.zero_mul, Nat.add_zero] at whole

theorem mixedRadix_zero (bases : List Nat) : mixedRadix bases 0 = (bases.map fun _ => 0, 0) := by
  induction bases with
  | nil => rfl
  | cons base bases ih => simp [mixedRadix, ih]

/-! The first arrangement. -/

theorem nthOrder_zero {α : Type} (items : List α) : nthOrder items 0 = items := by
  induction items with
  | nil => rfl
  | cons item items ih =>
    rw [nthOrder] at ih
    simp [nthOrder, nthOrderOfSize, ih]

/-- The order of a token's fields that comes first: the listed one, or else the source order. -/
inductive Token.FirstOrder (token : Token) : Token → Prop where
  | listed {names : List Text} {ordered : Token} (marked : fieldOrder? token = some names)
      (inOrder : Listed names token ordered) : FirstOrder token ordered
  | source (unlisted : fieldOrder? token = none) : FirstOrder token token

/-- The same field, where nested tokens with a listed order have that order, at every depth. -/
inductive Field.InFirstOrder : Field → Field → Prop where
  | leaf (key text : Text) : Field.InFirstOrder (.leaf key text) (.leaf key text)
  | flag (key : Text) (value : Bool) : Field.InFirstOrder (.flag key value) (.flag key value)
  | nested (key : Text) {fields ordered result : List Field} (own : Token.FirstOrder fields ordered)
      (inside : List.Forall₂ Field.InFirstOrder ordered result) :
      Field.InFirstOrder (.nested key fields) (.nested key result)

/-- The same token in source order, but for listed orders, at every depth. -/
def Token.InFirstOrder (token result : Token) : Prop :=
  ∃ ordered, FirstOrder token ordered ∧ List.Forall₂ Field.InFirstOrder ordered result

theorem Field.InFirstOrder.outline_eq {field result : Field} (first : field.InFirstOrder result) :
    field.outline = result.outline := by
  cases first <;> rfl

theorem Field.InFirstOrder.key_eq {field result : Field} (first : field.InFirstOrder result) :
    field.key = result.key := by
  cases first <;> rfl

theorem Token.inOrder_zero (token : Token) :
    inOrder token 0 = match fieldOrder? token with
      | some names => listedFirst names token
      | none => token := by
  cases marked : fieldOrder? token <;> simp [inOrder, marked, nthOrder_zero]

theorem Field.arrange_zero_left (field : Field) : (field.arrange 0).2 = 0 := by
  cases field with
  | leaf _ _ | flag _ _ => rfl
  | nested key fields => rw [Field.arrange_nested, Nat.zero_div]

theorem Field.arrangeEach_zero (fields : List Field) :
    Field.arrangeEach fields 0 = fields.map fun field => (field.arrange 0).1 := by
  induction fields with
  | nil => rfl
  | cons field fields ih => rw [Field.arrangeEach_cons, Field.arrange_zero_left, ih, List.map_cons]

/-- A token whose fields are in first order inside is put into first order by number zero. -/
theorem Token.inFirstOrder_of_each {fields : List Field}
    (each : ∀ field ∈ fields, field.InFirstOrder (field.arrange 0).1) :
    InFirstOrder fields (arrange fields 0) := by
  have inside : List.Forall₂ Field.InFirstOrder fields (Field.arrangeEach fields 0) := by
    rw [Field.arrangeEach_zero, List.forall₂_map_right_iff, List.forall₂_same]
    exact each
  have outlines : fields.map Field.outline = (Field.arrangeEach fields 0).map Field.outline := by
    rw [← List.forall₂_eq_eq_eq, List.forall₂_map_left_iff, List.forall₂_map_right_iff]
    exact inside.imp fun _ _ first => first.outline_eq
  rw [arrange, Nat.zero_div, Nat.zero_mod, inOrder_zero, ← fieldOrder?_congr outlines]
  cases marked : fieldOrder? fields with
  | none => exact ⟨fields, .source marked, inside⟩
  | some names =>
    obtain ⟨ordered, listed, related⟩ := (listed_listedFirst names _).before_choice
      (fun _ _ => Field.InFirstOrder.key_eq) inside
    exact ⟨ordered, .listed marked listed, related⟩

theorem Field.inFirstOrder_arrange (field : Field) : field.InFirstOrder (field.arrange 0).1 := by
  induction field using Field.inside_induction with
  | leaf key text => exact .leaf key text
  | flag key value => exact .flag key value
  | nested key fields ih =>
    obtain ⟨ordered, own, inside⟩ := Token.inFirstOrder_of_each ih
    rw [Field.arrange_nested, Nat.zero_mod]
    exact .nested key own inside

theorem Token.inFirstOrder_arrange (token : Token) : InFirstOrder token (arrange token 0) :=
  inFirstOrder_of_each fun field _ => field.inFirstOrder_arrange

namespace Serializations

/-- A text that a run yields, with the number of those in front of it. -/
def YieldsAt (run : Serializations) (index : Nat) (text : Text) : Prop :=
  ∃ items, run.Yields items ∧ items[index]? = some text

theorem yieldsAt_item {tokens : List Token} {index : Nat} (inside : index < (ofTokens tokens).total) :
    (ofTokens tokens).YieldsAt index ((ofTokens tokens).item index) := by
  refine ⟨_, yields_from (ofTokens tokens), ?_⟩
  have within : index < (ofTokens tokens).remaining := inside
  rw [List.getElem?_map, List.getElem?_range' within]
  simp [ofTokens]

theorem counts_pos (run : Serializations) : ∀ count ∈ run.counts, 0 < count := by
  rw [counts, List.forall_mem_map]
  exact fun token _ => token.arrangementCount_pos

theorem total_le_saturate (run : Serializations) : run.total ≤ Count.saturate run.counts.prod := by
  rw [total]
  split
  · exact Nat.zero_le _
  · exact Nat.le_of_eq (Count.product_eq_saturate_prod _)

/-- Every number that a run has is made up of digits, one for each token. -/
theorem isMixedRadix_of_lt_total {tokens : List Token} {index : Nat}
    (inside : index < (ofTokens tokens).total) :
    IsMixedRadix (tokens.map Token.arrangementCount) index
      (mixedRadix (tokens.map Token.arrangementCount) index).1 := by
  have exact : Count.saturate (ofTokens tokens).counts.prod ≤ (ofTokens tokens).counts.prod := by
    rw [Count.saturate_eq]
    exact Nat.min_le_left ..
  have below := Nat.lt_of_lt_of_le inside ((ofTokens tokens).total_le_saturate.trans exact)
  exact isMixedRadix_of_lt (ofTokens tokens).counts_pos below

theorem total_singleton (token : Token) : (ofTokens [token]).total = Token.arrangementCount token := by
  have alone : Token.exactTotal [token] = Token.exactCount token := by simp [Token.exactTotal]
  rw [ofTokens, total_eq (List.cons_ne_nil _ _), alone, Token.arrangementCount_eq]

/-- A token alone yields its own arrangements by their numbers. -/
theorem yieldsAt_singleton {token : Token} {digit : Nat}
    (inside : digit < Token.arrangementCount token) :
    (ofTokens [token]).YieldsAt digit (Token.serialize (Token.arrange token digit)) := by
  have own : (ofTokens [token]).YieldsAt digit ((ofTokens [token]).item digit) :=
    yieldsAt_item (by rwa [total_singleton])
  have same : (ofTokens [token]).item digit = Token.serialize (Token.arrange token digit) := by
    simp [item, arrangement, counts, ofTokens, mixedRadix, Nat.mod_eq_of_lt inside,
      Token.serializeAll, Text.joinSpaced, Text.joinBy]
  rwa [same] at own

theorem yieldsAt_members {tokens : List Token} {digits : List Nat}
    (below : List.Forall₂ (· < ·) digits (tokens.map Token.arrangementCount)) :
    List.Forall₂ (fun (member : Token × Nat) piece => (ofTokens [member.1]).YieldsAt member.2 piece)
      (tokens.zip digits) ((List.zipWith Token.arrange tokens digits).map Token.serialize) := by
  induction tokens generalizing digits with
  | nil => exact .nil
  | cons token tokens ih =>
    obtain ⟨digit, others, inside, later, rfl⟩ := List.forall₂_cons_right_iff.mp below
    exact .cons (yieldsAt_singleton inside) (ih later)

theorem arrangement_zero (tokens : List Token) :
    (ofTokens tokens).arrangement 0 = tokens.map fun token => Token.arrange token 0 := by
  rw [arrangement, mixedRadix_zero, ofTokens, counts]
  induction tokens with
  | nil => rfl
  | cons token tokens ih => simpa using ih

/-- Every serialization of a run joins one of each token: those that the tokens yield alone under the
digits of its number, the last digit being the least significant. The first one is that of the source
order, but for listed orders, at every depth. -/
theorem items_join_members {tokens : List Token} (nonempty : tokens ≠ []) :
    (∀ index < (ofTokens tokens).total, ∃ digits pieces,
      IsMixedRadix (tokens.map Token.arrangementCount) index digits ∧
      (ofTokens tokens).YieldsAt index (Text.joinSpaced pieces) ∧
      List.Forall₂
        (fun (member : Token × Nat) piece => (ofTokens [member.1]).YieldsAt member.2 piece)
        (tokens.zip digits) pieces) ∧
    ∃ arranged, List.Forall₂ Token.InFirstOrder tokens arranged ∧
      (ofTokens tokens).YieldsAt 0 (Token.serializeAll arranged) := by
  constructor
  · intro index inside
    have digits := isMixedRadix_of_lt_total inside
    exact ⟨_, _, digits, yieldsAt_item inside, yieldsAt_members digits.below⟩
  · have positive : 0 < (ofTokens tokens).total := by
      rw [ofTokens, total_eq nonempty]
      exact Count.saturate_pos (Token.exactTotal_pos tokens)
    have first := yieldsAt_item positive
    rw [item, arrangement_zero] at first
    refine ⟨_, ?_, first⟩
    rw [List.forall₂_map_right_iff, List.forall₂_same]
    exact fun token _ => Token.inFirstOrder_arrange token

def measuresAndDate : List Token := [decimalMeasure, listedDate, decimalMeasure]

theorem items_join_members_measures_date :
    measuresAndDate ≠ [] ∧ (ofTokens measuresAndDate).total = 16 ∧
      (∃ digits pieces, IsMixedRadix [4, 1, 4] 7 digits ∧
        (ofTokens measuresAndDate).YieldsAt 7 (Text.joinSpaced pieces) ∧
        List.Forall₂
          (fun (member : Token × Nat) piece => (ofTokens [member.1]).YieldsAt member.2 piece)
          (measuresAndDate.zip digits) pieces) ∧
      ∃ arranged, List.Forall₂ Token.InFirstOrder measuresAndDate arranged ∧
        (ofTokens measuresAndDate).YieldsAt 0 (Token.serializeAll arranged) := by
  have nonempty : measuresAndDate ≠ [] := List.cons_ne_nil _ _
  have total : (ofTokens measuresAndDate).total = 16 := by decide
  obtain ⟨each, first⟩ := items_join_members nonempty
  exact ⟨nonempty, total, each 7 (by rw [total]; decide), first⟩

end Serializations

end SpokenForm
