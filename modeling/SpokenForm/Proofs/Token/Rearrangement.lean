import SpokenForm.Proofs.Token.Reordering
import SpokenForm.Proofs.Token.SerializationEnumeration

/-! Serializations that are read back. Every text that a run yields spells the tokens of the run: their
fields stand in the settled order, or in any order where none is settled, at every depth, and
nothing else has changed. -/
namespace SpokenForm

/-- The order that a list of names gives to fields: each name takes the first field of that name that
is left, and what no name has taken follows as it stands. -/
inductive Token.Listed : List Text → Token → Token → Prop where
  | others (token : Token) : Listed [] token token
  | taken {names : List Text} {before after ordered : Token} {field : Field}
      (first : field.key ∉ before.map Field.key) (later : Listed names (before ++ after) ordered) :
      Listed (field.key :: names) (before ++ field :: after) (field :: ordered)
  | unknown {name : Text} {names : List Text} {token ordered : Token}
      (absent : name ∉ token.map Field.key) (later : Listed names token ordered) :
      Listed (name :: names) token ordered

/-- The orders that the fields of a token may stand in. A list of names decides before the mark that
keeps the source order. -/
inductive Token.Ordered (token : Token) : Token → Prop where
  | listed {names : List Text} {ordered : Token} (marked : fieldOrder? token = some names)
      (inOrder : Listed names token ordered) : Ordered token ordered
  | preserved (unlisted : fieldOrder? token = none) (marked : preservesOrder token = true) :
      Ordered token token
  | free {ordered : Token} (unsettled : isOrderFixed token = false) (permuted : ordered.Perm token) :
      Ordered token ordered

/-- The same field, where the fields of nested tokens may stand in another order. -/
inductive Field.Rearranged : Field → Field → Prop where
  | leaf (key text : Text) : Field.Rearranged (.leaf key text) (.leaf key text)
  | flag (key : Text) (value : Bool) : Field.Rearranged (.flag key value) (.flag key value)
  | nested (key : Text) {fields ordered result : List Field} (own : Token.Ordered fields ordered)
      (inside : List.Forall₂ Field.Rearranged ordered result) :
      Field.Rearranged (.nested key fields) (.nested key result)

/-- The same token, where its fields and those of the tokens inside may stand in another order. -/
def Token.Rearranged (token result : Token) : Prop :=
  ∃ ordered, Ordered token ordered ∧ List.Forall₂ Field.Rearranged ordered result

/-! Taking fields by name. -/

theorem Token.exists_of_take? {name : Text} {token others : Token} {found : Field}
    (taken : take? name token = some (found, others)) :
    ∃ before after, token = before ++ found :: after ∧ others = before ++ after ∧
      found.key = name ∧ name ∉ before.map Field.key := by
  induction token generalizing others with
  | nil => cases taken
  | cons field rest ih =>
    unfold take? at taken
    split at taken
    · rename_i named
      obtain ⟨rfl, rfl⟩ := Prod.mk.inj (Option.some.inj taken)
      exact ⟨[], rest, rfl, rfl, named, by simp⟩
    · rename_i different
      obtain ⟨⟨picked, left⟩, later, same⟩ := Option.map_eq_some_iff.mp taken
      obtain ⟨rfl, rfl⟩ := Prod.mk.inj same
      obtain ⟨before, after, rfl, rfl, named, absent⟩ := ih later
      exact ⟨field :: before, after, rfl, rfl, named, by simpa [Ne.symm different] using absent⟩

theorem Token.absent_of_take? {name : Text} {token : Token} (missing : take? name token = none) :
    name ∉ token.map Field.key := by
  induction token with
  | nil => simp
  | cons field rest ih =>
    unfold take? at missing
    split at missing
    · cases missing
    · rename_i different
      simpa [Ne.symm different] using ih (Option.map_eq_none_iff.mp missing)

theorem Token.listed_listedFirst (names : List Text) (token : Token) :
    Listed names token (listedFirst names token) := by
  induction names generalizing token with
  | nil => exact .others token
  | cons name names ih =>
    unfold listedFirst
    split
    · rename_i found others taken
      obtain ⟨before, after, rfl, rfl, rfl, first⟩ := exists_of_take? taken
      exact .taken first (ih (before ++ after))
    · rename_i missing
      exact .unknown (absent_of_take? missing) (ih token)

theorem forall₂_append_right {α β : Type} {R : α → β → Prop} {items : List α} {front back : List β}
    (each : List.Forall₂ R items (front ++ back)) :
    ∃ first last, items = first ++ last ∧ List.Forall₂ R first front ∧ List.Forall₂ R last back :=
  ⟨_, _, (List.take_append_drop front.length items).symm, List.forall₂_take_append _ _ _ each,
    List.forall₂_drop_append _ _ _ each⟩

/-! Fields may be put in order before what is inside them is arranged as well as behind it. -/

section

variable {R : Field → Field → Prop} (keys : ∀ field choice, R field choice → field.key = choice.key)
include keys

theorem Field.keys_eq_of_forall₂ {fields chosen : List Field} (each : List.Forall₂ R fields chosen) :
    fields.map Field.key = chosen.map Field.key := by
  induction each with
  | nil => rfl
  | cons head _ ih => simp [keys _ _ head, ih]

theorem Token.Listed.before_choice {names : List Text} {chosen order : Token}
    (listed : Listed names chosen order) {fields : Token} (each : List.Forall₂ R fields chosen) :
    ∃ ordered, Listed names fields ordered ∧ List.Forall₂ R ordered order := by
  induction listed generalizing fields with
  | others token => exact ⟨fields, .others fields, each⟩
  | @taken names before after order field first _ ih =>
    obtain ⟨front, rest, rfl, inFront, behind⟩ := forall₂_append_right each
    obtain ⟨twin, back, alike, inBack, rfl⟩ := List.forall₂_cons_right_iff.mp behind
    obtain ⟨ordered, later, related⟩ := ih (List.rel_append inFront inBack)
    have named := keys twin field alike
    refine ⟨twin :: ordered, ?_, .cons alike related⟩
    rw [← named] at first ⊢
    exact .taken (by rwa [Field.keys_eq_of_forall₂ keys inFront]) later
  | unknown absent _ ih =>
    obtain ⟨ordered, later, related⟩ := ih each
    exact ⟨ordered, .unknown (by rwa [Field.keys_eq_of_forall₂ keys each]) later, related⟩

end

theorem Field.Rearranged.key_eq {field choice : Field} (rearranged : field.Rearranged choice) :
    field.key = choice.key := by
  cases rearranged <;> rfl

variable {free : List Field → List (List Field)}

section

variable (reorders : Reorders free)
include reorders

/-- An order of fields that are arranged inside is an arrangement inside of fields that are in order. -/
theorem Token.rearranged_of_mem_ordersBy {fields chosen order : Token}
    (outlines : chosen.map Field.outline = fields.map Field.outline)
    (each : List.Forall₂ Field.Rearranged fields chosen) (member : order ∈ ordersBy free chosen) :
    Rearranged fields order := by
  unfold ordersBy at member
  split at member
  · rename_i names marked
    obtain rfl := List.mem_singleton.mp member
    obtain ⟨ordered, listed, related⟩ := (listed_listedFirst names chosen).before_choice
      (fun _ _ => Field.Rearranged.key_eq) each
    exact ⟨ordered, .listed ((fieldOrder?_congr outlines).symm.trans marked) listed, related⟩
  · rename_i unlisted
    have alsoUnlisted := (fieldOrder?_congr outlines).symm.trans unlisted
    split at member
    · rename_i marked
      obtain rfl := List.mem_singleton.mp member
      exact ⟨fields, .preserved alsoUnlisted ((preservesOrder_congr outlines).symm.trans marked), each⟩
    · rename_i unmarked
      have unsettled : isOrderFixed fields = false := by
        rw [← isOrderFixed_congr outlines, isOrderFixed]
        simp [unmarked, unlisted]
      obtain ⟨ordered, related, permuted⟩ :=
        List.perm_comp_forall₂ (reorders chosen order member) each.flip
      exact ⟨ordered, .free unsettled permuted, related.flip⟩

theorem Field.rearranged_of_mem_choices {field choice : Field} (member : choice ∈ field.choices free) :
    field.Rearranged choice := by
  induction field using Field.inside_induction generalizing choice with
  | leaf key text =>
    obtain rfl := List.mem_singleton.mp member
    exact .leaf key text
  | flag key value =>
    obtain rfl := List.mem_singleton.mp member
    exact .flag key value
  | nested key fields ih =>
    obtain ⟨order, chosenOrder, rfl⟩ := List.mem_map.mp member
    obtain ⟨chosen, picked, inOrder⟩ := List.mem_flatMap.mp chosenOrder
    have each := forall₂_imp_of_mem (fun field member choice => ih field member)
      (Field.mem_choicesEach.mp picked)
    obtain ⟨ordered, own, inside⟩ := Token.rearranged_of_mem_ordersBy reorders
      (Field.choicesEach_outline picked) each inOrder
    exact .nested key own inside

theorem Token.rearranged_of_mem_choices {token arranged : Token} (member : arranged ∈ choices free token) :
    Rearranged token arranged := by
  obtain ⟨chosen, picked, inOrder⟩ := List.mem_flatMap.mp member
  have each := (Field.mem_choicesEach.mp picked).imp fun _ _ choice =>
    Field.rearranged_of_mem_choices reorders choice
  exact rearranged_of_mem_ordersBy reorders (Field.choicesEach_outline picked) each inOrder

theorem Token.rearranged_of_mem_choicesAll {tokens arranged : List Token}
    (member : arranged ∈ choicesAll free tokens) : List.Forall₂ Rearranged tokens arranged :=
  (mem_choicesAll.mp member).imp fun _ _ choice => rearranged_of_mem_choices reorders choice

end

namespace Serializations

open TaggedText

theorem yields_nil : (ofTokens []).Yields [] := .ended rfl

/-- Whatever text spells tokens, each serialization that their run yields is read to as many tokens,
the same ones but for the order of unsettled fields; and in source order they are read back as they
are. -/
theorem yields_rearranged {text : Text} {tokens : List Token} (parsed : parse text = .ok tokens) :
    (∃ items, (ofTokens tokens).Yields items ∧ ∀ item ∈ items, ∃ arranged,
      parse item = .ok arranged ∧ List.Forall₂ Token.Rearranged tokens arranged) ∧
    parse (Token.serializeAll tokens) = .ok tokens := by
  have spelled : ∃ text, parse text = .ok tokens := ⟨text, parsed⟩
  refine ⟨?_, parse_serializeAll spelled⟩
  by_cases nothing : tokens = []
  · subst nothing
    exact ⟨[], yields_nil, by simp⟩
  · refine ⟨_, yields_choices nothing, fun item member => ?_⟩
    obtain ⟨arranged, early, rfl⟩ := List.mem_map.mp member
    have choice : arranged ∈ Token.choicesAll orders tokens := List.mem_of_mem_take early
    exact ⟨arranged,
      parse_serializeAll (exists_parse_of_mem_choicesAll reorders_orders spelled choice),
      Token.rearranged_of_mem_choicesAll reorders_orders choice⟩

/-- A date that lists its day twice, and a measure of an empty decimal. -/
def listedDateAndMeasure : List Token :=
  [[.nested "tokens".toList [.nested "date".toList [
      .leaf "year".toList "2013".toList, .leaf "day".toList "\\\"24\\\"".toList,
      .leaf "field_order".toList "day month day".toList]]],
    [.nested "tokens".toList [.nested "measure".toList [
      .nested "decimal".toList [], .leaf "units".toList "m".toList,
      .flag "negative".toList true]]]]

/-- The same without a blank where none is needed. -/
def listedDateAndMeasureText : Text :=
  ("tokens\x7bdate\x7byear:\"2013\"day:\"\\\"24\\\"\"field_order:\"day month day\"\x7d\x7d" ++
    "tokens\x7bmeasure\x7bdecimal\x7b\x7dunits:\"m\"negative:true\x7d\x7d").toList

set_option maxRecDepth 4000 in
theorem parse_listedDateAndMeasure :
    parse listedDateAndMeasureText = .ok listedDateAndMeasure := by
  rfl

theorem yields_rearranged_date_measure :
    parse listedDateAndMeasureText = .ok listedDateAndMeasure ∧
      ∃ items, (ofTokens listedDateAndMeasure).Yields items ∧ items ≠ [] ∧
        ∀ item ∈ items, ∃ arranged, parse item = .ok arranged ∧
          List.Forall₂ Token.Rearranged listedDateAndMeasure arranged := by
  obtain ⟨items, yields, each⟩ := (yields_rearranged parse_listedDateAndMeasure).1
  refine ⟨parse_listedDateAndMeasure, items, yields, ?_, each⟩
  rintro rfl
  have more : (ofTokens listedDateAndMeasure).next?.isSome = true := by decide
  cases yields with
  | ended exhausted => simp [exhausted] at more

end Serializations

end SpokenForm
