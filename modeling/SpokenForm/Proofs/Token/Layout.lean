import SpokenForm.Proofs.Token.ReadingCompleteness

/-! Reading tagged text accepts exactly the layouts of tokens. The lexemes that a reader has accepted
can be read off its state, and those of a token list are accepted one by one. -/
namespace SpokenForm.TaggedText

/-! What a reader between lexemes has accepted so far. -/

def Frame.lexemes (frame : Frame) : List Lexeme :=
  [.name frame.key, .opening] ++ frame.fields.reverse.flatMap Field.lexemes

/-- The lexemes behind the last complete field. -/
def Mode.lexemes : Mode → List Lexeme
  | .afterKey key => [.name key]
  | .beforeValue key => [.name key, .colon]
  | _ => []

def Reader.lexemes (reader : Reader) : List Lexeme :=
  reader.finished.reverse.flatten.flatMap Field.lexemes ++
    (reader.frames.reverse.flatMap Frame.lexemes ++ reader.mode.lexemes)

theorem Reader.addField_lexemes (finished : List Token) (frames : List Frame) (mode : Mode)
    (field : Field) :
    (Reader.addField ⟨finished, frames, mode⟩ field).lexemes =
      finished.reverse.flatten.flatMap Field.lexemes ++
        (frames.reverse.flatMap Frame.lexemes ++ field.lexemes) := by
  cases frames <;> simp [Reader.addField, Reader.lexemes, Mode.lexemes, Frame.lexemes]

theorem Reader.accept_lexemes {reader next : Reader} {lexeme : Lexeme}
    (accepted : reader.accept lexeme = some next) : next.lexemes = reader.lexemes ++ [lexeme] := by
  obtain ⟨finished, frames, mode⟩ := reader
  unfold Reader.accept at accepted
  split at accepted
  · rename_i key boundary
    obtain rfl : mode = .between := boundary
    cases accepted
    simp [Reader.lexemes, Mode.lexemes]
  · rename_i boundary
    obtain rfl : mode = .between := boundary
    cases frames with
    | nil => cases accepted
    | cons frame outer =>
      cases accepted
      rw [Reader.addField_lexemes]
      simp [Reader.lexemes, Mode.lexemes, Field.lexemes, Field.lexemesEach_eq, Frame.lexemes]
  · rename_i key boundary
    obtain rfl : mode = .afterKey key := boundary
    cases accepted
    simp [Reader.lexemes, Mode.lexemes, Reader.openBlock, Frame.lexemes]
  · rename_i key boundary
    obtain rfl : mode = .afterKey key := boundary
    cases frames with
    | nil => cases accepted
    | cons frame outer =>
      cases accepted
      simp [Reader.lexemes, Mode.lexemes]
  · rename_i key text boundary
    obtain rfl : mode = .beforeValue key := boundary
    cases accepted
    rw [Reader.addField_lexemes]
    simp [Reader.lexemes, Mode.lexemes, Field.lexemes]
  · rename_i key value boundary
    obtain rfl : mode = .beforeValue key := boundary
    cases accepted
    rw [Reader.addField_lexemes]
    simp [Reader.lexemes, Mode.lexemes, Field.lexemes]
  · cases accepted

theorem Reader.acceptAll_lexemes {lexemes : List Lexeme} {reader last : Reader}
    (accepted : reader.acceptAll lexemes = some last) :
    last.lexemes = reader.lexemes ++ lexemes := by
  induction lexemes generalizing reader with
  | nil =>
    cases accepted
    simp
  | cons lexeme rest ih =>
    cases taken : reader.accept lexeme with
    | none => simp [Reader.acceptAll, taken] at accepted
    | some next =>
      have later : next.acceptAll rest = some last := by
        simpa [Reader.acceptAll, taken] using accepted
      simp [ih later, Reader.accept_lexemes taken]

/-- Only blocks stand outside all blocks, and only inside one a value can come. -/
def Reader.OnlyBlocks (reader : Reader) : Prop :=
  (∀ token ∈ reader.finished, ∃ key fields, token = [.nested key fields]) ∧
    (reader.frames = [] → ∀ key, reader.mode ≠ .beforeValue key)

theorem Reader.accept_onlyBlocks {reader next : Reader} {lexeme : Lexeme}
    (accepted : reader.accept lexeme = some next) (valid : reader.OnlyBlocks) :
    next.OnlyBlocks := by
  obtain ⟨finished, frames, mode⟩ := reader
  obtain ⟨blocks, inside⟩ := valid
  unfold Reader.accept at accepted
  split at accepted
  · cases accepted
    exact ⟨blocks, by simp⟩
  · cases frames with
    | nil => cases accepted
    | cons frame outer =>
      cases accepted
      cases outer with
      | nil => exact ⟨List.forall_mem_cons.mpr ⟨⟨_, _, rfl⟩, blocks⟩, by simp [Reader.addField]⟩
      | cons next outer => exact ⟨blocks, by simp [Reader.addField]⟩
  · cases accepted
    exact ⟨blocks, by simp [Reader.openBlock]⟩
  · cases frames with
    | nil => cases accepted
    | cons frame outer =>
      cases accepted
      exact ⟨blocks, by simp⟩
  · rename_i key text boundary
    cases frames with
    | nil => exact absurd boundary (inside rfl key)
    | cons frame outer =>
      cases accepted
      exact ⟨blocks, by simp [Reader.addField]⟩
  · rename_i key value boundary
    cases frames with
    | nil => exact absurd boundary (inside rfl key)
    | cons frame outer =>
      cases accepted
      exact ⟨blocks, by simp [Reader.addField]⟩
  · cases accepted

theorem Reader.acceptAll_onlyBlocks {lexemes : List Lexeme} {reader last : Reader}
    (accepted : reader.acceptAll lexemes = some last) (valid : reader.OnlyBlocks) :
    last.OnlyBlocks := by
  induction lexemes generalizing reader with
  | nil =>
    cases accepted
    exact valid
  | cons lexeme rest ih =>
    cases taken : reader.accept lexeme with
    | none => simp [Reader.acceptAll, taken] at accepted
    | some next =>
      have later : next.acceptAll rest = some last := by
        simpa [Reader.acceptAll, taken] using accepted
      exact ih later (Reader.accept_onlyBlocks taken valid)

/-! The lexemes of tokens are accepted. -/

theorem Reader.acceptAll_append (reader : Reader) (first second : List Lexeme) :
    reader.acceptAll (first ++ second) =
      reader.acceptAll first >>= fun next => next.acceptAll second := by
  induction first generalizing reader with
  | nil => rfl
  | cons lexeme first ih =>
    cases taken : reader.accept lexeme <;> simp [Reader.acceptAll, taken, ih]

theorem Reader.acceptAll_fields {fields : List Field} (finished : List Token)
    (each : ∀ field ∈ fields, ∀ frame outer,
      Reader.acceptAll ⟨finished, frame :: outer, .between⟩ field.lexemes =
        some (Reader.addField ⟨finished, frame :: outer, .between⟩ field))
    (frame : Frame) (outer : List Frame) :
    Reader.acceptAll ⟨finished, frame :: outer, .between⟩ (fields.flatMap Field.lexemes) =
      some ⟨finished, ⟨frame.key, fields.reverse ++ frame.fields⟩ :: outer, .between⟩ := by
  induction fields generalizing frame with
  | nil => rfl
  | cons field fields ih =>
    obtain ⟨first, others⟩ := List.forall_mem_cons.mp each
    rw [List.flatMap_cons, Reader.acceptAll_append, first frame outer]
    have later := ih others ⟨frame.key, field :: frame.fields⟩
    simpa [Reader.addField] using later

theorem Reader.acceptAll_block (key : Text) (fields : List Field) (finished : List Token)
    (frames : List Frame)
    (each : ∀ field ∈ fields, ∀ frame outer,
      Reader.acceptAll ⟨finished, frame :: outer, .between⟩ field.lexemes =
        some (Reader.addField ⟨finished, frame :: outer, .between⟩ field)) :
    Reader.acceptAll ⟨finished, frames, .between⟩ (Field.nested key fields).lexemes =
      some (Reader.addField ⟨finished, frames, .between⟩ (.nested key fields)) := by
  have inside := Reader.acceptAll_fields finished each ⟨key, []⟩ frames
  simp only [Field.lexemes, Field.lexemesEach_eq, Reader.acceptAll, Reader.accept,
    Reader.acceptAll_append, Reader.openBlock, Option.bind_eq_bind, Option.bind_some, inside]
  simp

/-- Inside a block any field is accepted. -/
theorem Reader.acceptAll_field (field : Field) (finished : List Token) (frame : Frame)
    (outer : List Frame) :
    Reader.acceptAll ⟨finished, frame :: outer, .between⟩ field.lexemes =
      some (Reader.addField ⟨finished, frame :: outer, .between⟩ field) := by
  induction field using Field.inside_induction generalizing frame outer with
  | leaf key text => rfl
  | flag key value => rfl
  | nested key fields ih => exact Reader.acceptAll_block key fields finished (frame :: outer) ih

theorem Reader.acceptAll_tokens {tokens : List Token}
    (blocks : ∀ token ∈ tokens, ∃ key fields, token = [.nested key fields])
    (finished : List Token) :
    Reader.acceptAll ⟨finished, [], .between⟩ (tokens.flatten.flatMap Field.lexemes) =
      some ⟨tokens.reverse ++ finished, [], .between⟩ := by
  induction tokens generalizing finished with
  | nil => rfl
  | cons token tokens ih =>
    obtain ⟨⟨key, fields, rfl⟩, others⟩ := List.forall_mem_cons.mp blocks
    have block := Reader.acceptAll_block key fields finished []
      fun field _ frame outer => Reader.acceptAll_field field finished frame outer
    rw [List.flatten_cons, List.singleton_append, List.flatMap_cons, Reader.acceptAll_append, block]
    have later := ih others ([.nested key fields] :: finished)
    simpa [Reader.addField] using later

/-! Reading and layouts. -/

theorem layout_of_parse {text : Text} {tokens : List Token} (parsed : parse text = .ok tokens) :
    Layout tokens text := by
  rw [parse_eq_read] at parsed
  have completes : Reader.start.Completes text tokens := Reader.read_completes parsed
  obtain ⟨lexemes, laidOut, accepted⟩ := completes
  have valid : Reader.start.OnlyBlocks := by simp [Reader.OnlyBlocks, Reader.start]
  obtain ⟨blocks, -⟩ := Reader.acceptAll_onlyBlocks accepted valid
  have spelled := Reader.acceptAll_lexemes accepted
  refine ⟨by simpa [Reader.ended] using blocks, ?_⟩
  simp only [Reader.ended, Reader.start, Reader.lexemes, Mode.lexemes, List.reverse_reverse,
    List.reverse_nil, List.flatten_nil, List.flatMap_nil, List.append_nil, List.nil_append]
    at spelled
  exact spelled ▸ laidOut

theorem parse_of_layout {text : Text} {tokens : List Token} (layout : Layout tokens text) :
    parse text = .ok tokens := by
  rw [parse_eq_read]
  have accepted : Reader.start.acceptAll (tokens.flatten.flatMap Field.lexemes) =
      some (Reader.ended tokens) := by
    simpa [Reader.start, Reader.ended] using Reader.acceptAll_tokens layout.blocks []
  have boundary : Reader.start.mode.IsBoundary := trivial
  exact Reader.read_of_laysOut layout.laidOut boundary accepted 0

/-- Reading succeeds on the layouts of tokens and on nothing else, and tells what they spell; so no
text lays out two token lists. -/
theorem parse_eq_ok_iff_layout (text : Text) :
    (∀ tokens, parse text = .ok tokens ↔ Layout tokens text) ∧
      ∀ first second, Layout first text → Layout second text → first = second := by
  refine ⟨fun tokens => ⟨layout_of_parse, parse_of_layout⟩, ?_⟩
  intro first second layoutFirst layoutSecond
  have same := (parse_of_layout layoutFirst).symm.trans (parse_of_layout layoutSecond)
  exact Except.ok.inj same

example : parse "a\x7bb:true_:\"x\"\x7d".toList =
    .ok [[.nested ['a'] [.flag ['b'] true, .leaf ['_'] ['x']]]] := rfl

end SpokenForm.TaggedText
