import SpokenForm.Proofs.Text
import SpokenForm.Proofs.Token.Layout

/-! Serialized tokens are read back. Serialization puts one space in front of every lexeme but the
first one and colons, which is a layout; so tokens that some text spells are spelled by their own
serialization. -/
namespace SpokenForm

open Unicode TaggedText

def Lexeme.spaced : Lexeme → Text
  | colon => colon.spelling
  | lexeme => ' ' :: lexeme.spelling

theorem Field.serialize_spaced (field : Field) :
    ' ' :: field.serialize = field.lexemes.flatMap Lexeme.spaced := by
  induction field using Field.inside_induction with
  | leaf key text => simp [Field.serialize, Field.lexemes, Lexeme.spaced, Lexeme.spelling]
  | flag key value =>
    cases value <;> simp [Field.serialize, Field.lexemes, Lexeme.spaced, Lexeme.spelling]
  | nested key fields ih =>
    have inside : fields.flatMap (fun field => ' ' :: field.serialize) =
        fields.flatMap fun field => field.lexemes.flatMap Lexeme.spaced := by
      rw [List.flatMap_def, List.flatMap_def, List.map_congr_left ih]
    simp only [Field.serialize, Field.lexemes, Field.serializeEach_eq, Field.lexemesEach_eq]
    cases fields with
    | nil => simp [Lexeme.spaced, Lexeme.spelling]
    | cons field fields =>
      have pieces : ' ' :: Text.joinSpaced ((field :: fields).map Field.serialize) =
          (field :: fields).flatMap fun field => field.lexemes.flatMap Lexeme.spaced := by
        rw [Text.spaced_joinSpaced (by simp), List.flatMap_map]
        exact inside
      have spelled := congrArg (fun middle => (' ' :: key) ++ " \x7b".toList ++ middle ++ " \x7d".toList)
        pieces
      simpa [Lexeme.spaced, Lexeme.spelling, List.flatMap_assoc] using spelled

theorem Lexeme.spaced_ends (lexemes : List Lexeme) :
    ¬ StartsWith isAlphanumeric (lexemes.flatMap Lexeme.spaced) := by
  cases lexemes with
  | nil => exact startsWith_nil
  | cons first lexemes =>
    cases first <;> exact fun letter => absurd (startsWith_cons.mp letter) (by decide)

theorem Lexeme.spaced_eq (lexeme : Lexeme) :
    ∃ gap, Blank gap ∧ lexeme.spaced = gap ++ lexeme.spelling := by
  have oneSpace : Blank [' '] := by
    intro c member
    obtain rfl := List.mem_singleton.mp member
    decide
  cases lexeme with
  | colon => exact ⟨[], by simp [Blank], rfl⟩
  | name _ | quoted _ | word _ | opening | closing => exact ⟨[' '], oneSpace, rfl⟩

theorem LaysOut.spaced {lexemes : List Lexeme}
    (wellFormed : ∀ lexeme ∈ lexemes, lexeme.WellFormed) :
    LaysOut lexemes (lexemes.flatMap Lexeme.spaced) := by
  induction lexemes with
  | nil => exact .blank (by simp [Blank])
  | cons first lexemes ih =>
    obtain ⟨firstWellFormed, others⟩ := List.forall_mem_cons.mp wellFormed
    obtain ⟨gap, isBlank, same⟩ := first.spaced_eq
    rw [List.flatMap_cons, same, List.append_assoc]
    exact .lexeme gap isBlank firstWellFormed (fun _ _ => Lexeme.spaced_ends lexemes) (ih others)

theorem LaysOut.wellFormed {lexemes : List Lexeme} {text : Text} (laidOut : LaysOut lexemes text) :
    ∀ lexeme ∈ lexemes, lexeme.WellFormed := by
  induction laidOut with
  | blank _ => simp
  | lexeme _ _ wellFormed _ _ ih => exact List.forall_mem_cons.mpr ⟨wellFormed, ih⟩

/-- Blocks one after the other are serialized as their fields are inside a block. -/
theorem Token.serializeAll_blocks {tokens : List Token}
    (blocks : ∀ token ∈ tokens, ∃ key fields, token = [.nested key fields]) :
    serializeAll tokens = Text.joinSpaced (tokens.flatten.map Field.serialize) := by
  have each : tokens.map serialize = tokens.flatten.map Field.serialize := by
    induction tokens with
    | nil => rfl
    | cons token tokens ih =>
      obtain ⟨⟨key, fields, rfl⟩, others⟩ := List.forall_mem_cons.mp blocks
      rw [List.map_cons, ih others]
      rfl
  rw [serializeAll, each]

theorem TaggedText.layout_serializeAll {tokens : List Token}
    (blocks : ∀ token ∈ tokens, ∃ key fields, token = [.nested key fields])
    (wellFormed : ∀ lexeme ∈ tokens.flatten.flatMap Field.lexemes, lexeme.WellFormed) :
    Layout tokens (Token.serializeAll tokens) := by
  refine ⟨blocks, ?_⟩
  rw [Token.serializeAll_blocks blocks]
  cases tokens with
  | nil => exact .blank (by simp [Blank, Text.joinSpaced, Text.joinBy])
  | cons token tokens =>
    obtain ⟨⟨key, fields, rfl⟩, -⟩ := List.forall_mem_cons.mp blocks
    have spaced : ' ' :: Text.joinSpaced
        (([.nested key fields] :: tokens).flatten.map Field.serialize) =
        (([.nested key fields] :: tokens).flatten.flatMap Field.lexemes).flatMap Lexeme.spaced := by
      rw [Text.spaced_joinSpaced (by simp), List.flatMap_map, List.flatMap_assoc]
      simp only [Field.serialize_spaced]
    -- The first lexeme is a name, and the only one that needs no space in front.
    obtain ⟨rest, startsWithName⟩ : ∃ rest,
        ([Field.nested key fields] :: tokens).flatten.flatMap Field.lexemes = .name key :: rest := by
      simp [Field.lexemes]
    rw [startsWithName] at wellFormed spaced ⊢
    obtain ⟨isName, others⟩ := List.forall_mem_cons.mp wellFormed
    rw [(List.cons.inj spaced).2]
    exact .lexeme [] (by simp [Blank]) isName (by simp [Lexeme.EndsBefore])
      (LaysOut.spaced others)

/-- The token lists that texts spell: blocks of well-formed lexemes. -/
theorem TaggedText.exists_parse_iff (tokens : List Token) :
    (∃ text, parse text = .ok tokens) ↔
      (∀ token ∈ tokens, ∃ key fields, token = [.nested key fields]) ∧
        ∀ lexeme ∈ tokens.flatten.flatMap Field.lexemes, lexeme.WellFormed := by
  constructor
  · rintro ⟨text, parsed⟩
    have layout := layout_of_parse parsed
    exact ⟨layout.blocks, layout.laidOut.wellFormed⟩
  · rintro ⟨blocks, wellFormed⟩
    exact ⟨_, parse_of_layout (layout_serializeAll blocks wellFormed)⟩

theorem TaggedText.exists_parse_of_subset {tokens part : List Token} (included : part ⊆ tokens)
    (spelled : ∃ text, parse text = .ok tokens) : ∃ text, parse text = .ok part := by
  obtain ⟨blocks, wellFormed⟩ := (exists_parse_iff tokens).mp spelled
  refine (exists_parse_iff part).mpr ⟨fun token member => blocks token (included member), ?_⟩
  intro lexeme present
  obtain ⟨field, inside, own⟩ := List.mem_flatMap.mp present
  obtain ⟨token, member, holds⟩ := List.mem_flatten.mp inside
  exact wellFormed lexeme
    (List.mem_flatMap.mpr ⟨field, List.mem_flatten.mpr ⟨token, included member, holds⟩, own⟩)

/-- Tokens that some text spells are read back from their own serialization. -/
theorem TaggedText.parse_serializeAll {tokens : List Token}
    (spelled : ∃ text, parse text = .ok tokens) :
    parse (Token.serializeAll tokens) = .ok tokens := by
  obtain ⟨blocks, wellFormed⟩ := (exists_parse_iff tokens).mp spelled
  exact parse_of_layout (layout_serializeAll blocks wellFormed)

theorem TaggedText.serializeAll_injective {first second : List Token}
    (firstSpelled : ∃ text, parse text = .ok first) (secondSpelled : ∃ text, parse text = .ok second)
    (same : Token.serializeAll first = Token.serializeAll second) : first = second := by
  have parsed := parse_serializeAll firstSpelled
  rw [same, parse_serializeAll secondSpelled] at parsed
  exact (Except.ok.inj parsed).symm

end SpokenForm
