import SpokenForm.Proofs.Token.ArrangementNumbering
import SpokenForm.Proofs.Token.RoundTrip

/-! What arrangements keep and where they differ. Arranged tokens have the same lexemes, so a text
spells them if one spells the tokens themselves. Where no token has two fields of one name, no
arrangement is listed twice. -/
namespace SpokenForm

open TaggedText

theorem Token.take?_perm {name : Text} {token others : Token} {found : Field}
    (taken : take? name token = some (found, others)) : (found :: others).Perm token := by
  induction token generalizing others with
  | nil => cases taken
  | cons field rest ih =>
    unfold take? at taken
    split at taken
    · cases taken
      exact .refl _
    · obtain ⟨⟨picked, left⟩, later, same⟩ := Option.map_eq_some_iff.mp taken
      cases same
      exact (List.Perm.swap field found left).trans ((ih later).cons field)

theorem Token.listedFirst_perm (names : List Text) (token : Token) :
    (listedFirst names token).Perm token := by
  induction names generalizing token with
  | nil => exact .refl _
  | cons name names ih =>
    unfold listedFirst
    split
    · rename_i found others taken
      exact ((ih others).cons found).trans (take?_perm taken)
    · exact ih token

variable {free : List Field → List (List Field)}

/-- The orders that are offered are orders of the same fields. -/
def Reorders (free : List Field → List (List Field)) : Prop :=
  ∀ fields, ∀ order ∈ free fields, order.Perm fields

theorem reorders_permutations : Reorders List.permutations :=
  fun _ _ member => List.mem_permutations.mp member

theorem reorders_orders : Reorders orders := fun _ _ member => mem_orders.mp member

section

variable (reorders : Reorders free)
include reorders

theorem Token.perm_of_mem_ordersBy {token order : Token} (member : order ∈ ordersBy free token) :
    order.Perm token := by
  unfold ordersBy at member
  split at member
  · obtain rfl := List.mem_singleton.mp member
    exact listedFirst_perm _ token
  · split at member
    · obtain rfl := List.mem_singleton.mp member
      exact .refl _
    · exact reorders token order member

omit reorders in
theorem Field.choicesEach_lexemes_of_each {fields chosen : List Field}
    (each : ∀ field ∈ fields, ∀ choice ∈ field.choices free, choice.lexemes.Perm field.lexemes)
    (member : chosen ∈ Field.choicesEach free fields) :
    (chosen.flatMap Field.lexemes).Perm (fields.flatMap Field.lexemes) := by
  induction fields generalizing chosen with
  | nil =>
    obtain rfl := List.mem_singleton.mp member
    exact .refl _
  | cons field fields ih =>
    obtain ⟨first, later⟩ := List.forall_mem_cons.mp each
    obtain ⟨others, chosenLater, picked⟩ := List.mem_flatMap.mp member
    obtain ⟨choice, chosenFirst, rfl⟩ := List.mem_map.mp picked
    exact (first choice chosenFirst).append (ih later chosenLater)

theorem Field.choices_lexemes {field choice : Field} (member : choice ∈ field.choices free) :
    choice.lexemes.Perm field.lexemes := by
  induction field using Field.inside_induction generalizing choice with
  | leaf _ _ | flag _ _ =>
    obtain rfl := List.mem_singleton.mp member
    exact .refl _
  | nested key fields ih =>
    obtain ⟨order, chosenOrder, rfl⟩ := List.mem_map.mp member
    obtain ⟨chosen, chosenInside, ordered⟩ := List.mem_flatMap.mp chosenOrder
    have inside := Field.choicesEach_lexemes_of_each (fun field member _ => ih field member)
      chosenInside
    have own := (Token.perm_of_mem_ordersBy reorders ordered).flatMap_right Field.lexemes
    simp only [Field.lexemes, Field.lexemesEach_eq]
    exact (((own.trans inside).append_right _).cons _).cons _

theorem Token.choices_lexemes {token arranged : Token} (member : arranged ∈ choices free token) :
    (arranged.flatMap Field.lexemes).Perm (token.flatMap Field.lexemes) := by
  obtain ⟨chosen, chosenInside, ordered⟩ := List.mem_flatMap.mp member
  have inside := Field.choicesEach_lexemes_of_each
    (fun field _ _ picked => Field.choices_lexemes reorders picked) chosenInside
  exact ((perm_of_mem_ordersBy reorders ordered).flatMap_right Field.lexemes).trans inside

theorem Token.choicesAll_lexemes {tokens arranged : List Token}
    (member : arranged ∈ choicesAll free tokens) :
    (arranged.flatten.flatMap Field.lexemes).Perm (tokens.flatten.flatMap Field.lexemes) := by
  induction tokens generalizing arranged with
  | nil =>
    obtain rfl := List.mem_singleton.mp member
    exact .refl _
  | cons token tokens ih =>
    obtain ⟨first, chosenFirst, picked⟩ := List.mem_flatMap.mp member
    obtain ⟨later, chosenLater, rfl⟩ := List.mem_map.mp picked
    simp only [List.flatten_cons, List.flatMap_append]
    exact (choices_lexemes reorders chosenFirst).append (ih chosenLater)

theorem Token.choices_block {key : Text} {fields : List Field} {arranged : Token}
    (member : arranged ∈ choices free [.nested key fields]) :
    ∃ inside, arranged = [.nested key inside] := by
  obtain ⟨chosen, chosenInside, ordered⟩ := List.mem_flatMap.mp member
  obtain ⟨others, chosenLater, picked⟩ := List.mem_flatMap.mp chosenInside
  obtain rfl := List.mem_singleton.mp chosenLater
  obtain ⟨choice, chosenFirst, rfl⟩ := List.mem_map.mp picked
  obtain ⟨inside, _, rfl⟩ := List.mem_map.mp chosenFirst
  exact ⟨inside, List.perm_singleton.mp (perm_of_mem_ordersBy reorders ordered)⟩

theorem Token.choicesAll_blocks {tokens arranged : List Token}
    (blocks : ∀ token ∈ tokens, ∃ key fields, token = [.nested key fields])
    (member : arranged ∈ choicesAll free tokens) :
    ∀ token ∈ arranged, ∃ key fields, token = [.nested key fields] := by
  induction tokens generalizing arranged with
  | nil =>
    obtain rfl := List.mem_singleton.mp member
    simp
  | cons token tokens ih =>
    obtain ⟨⟨key, fields, rfl⟩, others⟩ := List.forall_mem_cons.mp blocks
    obtain ⟨first, chosenFirst, picked⟩ := List.mem_flatMap.mp member
    obtain ⟨later, chosenLater, rfl⟩ := List.mem_map.mp picked
    obtain ⟨inside, rfl⟩ := choices_block reorders chosenFirst
    exact List.forall_mem_cons.mpr ⟨⟨key, inside, rfl⟩, ih others chosenLater⟩

/-- Arrangements of tokens that some text spells are spelled by some text. -/
theorem TaggedText.exists_parse_of_mem_choicesAll {tokens arranged : List Token}
    (spelled : ∃ text, parse text = .ok tokens) (member : arranged ∈ Token.choicesAll free tokens) :
    ∃ text, parse text = .ok arranged := by
  obtain ⟨blocks, wellFormed⟩ := (exists_parse_iff tokens).mp spelled
  refine (exists_parse_iff arranged).mpr ⟨Token.choicesAll_blocks reorders blocks member, ?_⟩
  intro lexeme present
  exact wellFormed lexeme ((Token.choicesAll_lexemes reorders member).subset present)

end

/-! Distinct names. -/

/-- No token has two fields of one name, at any depth. -/
inductive Token.DistinctNames : Token → Prop where
  | intro {token : Token} (own : (token.map Field.key).Nodup)
      (inside : ∀ key fields, Field.nested key fields ∈ token → DistinctNames fields) :
      DistinctNames token

theorem eq_of_perm_of_map_eq {α β : Type} {f : α → β} {first second : List α}
    (permuted : first.Perm second) (same : first.map f = second.map f)
    (distinct : (first.map f).Nodup) : first = second := by
  apply List.ext_getElem permuted.length_eq
  intro place inFirst inSecond
  have image : f first[place] = f second[place] := by
    have at_place := congrArg (·[place]?) same
    simpa [List.getElem?_map, inFirst, inSecond] using at_place
  exact List.inj_on_of_nodup_map distinct (List.getElem_mem inFirst)
    (permuted.mem_iff.mpr (List.getElem_mem inSecond)) image

theorem Field.choicesEach_keys {fields chosen : List Field}
    (member : chosen ∈ Field.choicesEach free fields) :
    chosen.map Field.key = fields.map Field.key := by
  have outlines := congrArg (List.map Field.key) (Field.choicesEach_outline member)
  simpa [Function.comp_def, Field.outline_key] using outlines

theorem Field.nodup_choicesEach_of_each {fields : List Field}
    (each : ∀ field ∈ fields, (field.choices free).Nodup) :
    (Field.choicesEach free fields).Nodup := by
  induction fields with
  | nil => exact List.nodup_singleton _
  | cons field fields ih =>
    obtain ⟨first, later⟩ := List.forall_mem_cons.mp each
    rw [Field.choicesEach, List.nodup_flatMap]
    constructor
    · intro others _
      exact first.map fun _ _ same => (List.cons.inj same).1
    · refine (ih later).imp ?_
      intro left right different chosen inLeft inRight
      obtain ⟨_, _, rfl⟩ := List.mem_map.mp inLeft
      obtain ⟨_, _, same⟩ := List.mem_map.mp inRight
      exact different (List.cons.inj same).2.symm

section

variable (reorders : Reorders free) (once : ∀ fields : List Field, fields.Nodup → (free fields).Nodup)
include reorders once

theorem Token.nodup_choices_of_each {fields : List Field}
    (own : (fields.map Field.key).Nodup)
    (each : ∀ field ∈ fields, (field.choices free).Nodup) : (choices free fields).Nodup := by
  rw [choices, List.nodup_flatMap]
  constructor
  · intro chosen member
    have distinct : (chosen.map Field.key).Nodup := by rwa [Field.choicesEach_keys member]
    unfold ordersBy
    split
    · exact List.nodup_singleton _
    · split
      · exact List.nodup_singleton _
      · exact once chosen (List.Nodup.of_map _ distinct)
  · -- An order of the fields is told from one of other choices by the fields of the same name.
    refine (Field.nodup_choicesEach_of_each each).imp_of_mem ?_
    intro left right inLeft inRight different order ofLeft ofRight
    have permuted := (perm_of_mem_ordersBy reorders ofLeft).symm.trans
      (perm_of_mem_ordersBy reorders ofRight)
    refine different (eq_of_perm_of_map_eq (f := Field.key) permuted ?_ ?_)
    · rw [Field.choicesEach_keys inLeft, Field.choicesEach_keys inRight]
    · rwa [Field.choicesEach_keys inLeft]

theorem Field.nodup_choices {field : Field}
    (distinct : ∀ key fields, field = .nested key fields → Token.DistinctNames fields) :
    (field.choices free).Nodup := by
  induction field using Field.inside_induction with
  | leaf _ _ | flag _ _ => exact List.nodup_singleton _
  | nested key fields ih =>
    cases distinct key fields rfl with
    | intro own inside =>
      have each : ∀ field ∈ fields, (field.choices free).Nodup := by
        intro field member
        refine ih field member ?_
        rintro key fields rfl
        exact inside key fields member
      exact (Token.nodup_choices_of_each reorders once own each).map
        fun _ _ same => (Field.nested.inj same).2

theorem Token.nodup_choices {token : Token} (distinct : DistinctNames token) :
    (choices free token).Nodup := by
  cases distinct with
  | intro own inside =>
    refine nodup_choices_of_each reorders once own fun field member => ?_
    refine Field.nodup_choices reorders once ?_
    rintro key fields rfl
    exact inside key fields member

theorem Token.nodup_choicesAll {tokens : List Token}
    (distinct : ∀ token ∈ tokens, DistinctNames token) : (choicesAll free tokens).Nodup := by
  induction tokens with
  | nil => exact List.nodup_singleton _
  | cons token tokens ih =>
    obtain ⟨first, others⟩ := List.forall_mem_cons.mp distinct
    rw [choicesAll, List.nodup_flatMap]
    constructor
    · intro arranged _
      exact (ih others).map fun _ _ same => (List.cons.inj same).2
    · refine (nodup_choices reorders once first).imp ?_
      intro left right different arranged inLeft inRight
      obtain ⟨_, _, rfl⟩ := List.mem_map.mp inLeft
      obtain ⟨_, _, same⟩ := List.mem_map.mp inRight
      exact different (List.cons.inj same).1.symm

end

end SpokenForm
