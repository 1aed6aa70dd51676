import SpokenForm.Proofs.Token.Lexeme

/-! What reading accepts is laid out from lexemes. The reader goes character by character; between
two lexemes it is in a boundary state, and a whole lexeme takes it from one such state to another.
Each step puts its character in front of the text that completes the reader. -/
namespace SpokenForm.TaggedText

open Unicode

/-- Reads a text that starts at a position to its end. -/
def Reader.read (reader : Reader) (position : Nat) : Text → Except ParseError (List Token)
  | [] => reader.finish position
  | c :: rest => reader.step position c >>= fun next => next.read (position + c.utf8Size) rest

theorem Reader.run_finish (reader : Reader) (position : Nat) (text : Text) :
    (reader.run position text >>= fun last => last.finish (position + text.utf8Length)) =
      reader.read position text := by
  induction text generalizing reader position with
  | nil => rfl
  | cons c rest ih =>
    cases stepped : reader.step position c with
    | error fault => simp [Reader.run, Reader.read, stepped, bind, Except.bind]
    | ok next =>
      have later := ih next (position + c.utf8Size)
      simp only [Text.utf8Length, ← Nat.add_assoc]
      simpa [Reader.run, Reader.read, stepped, bind, Except.bind] using later

theorem parse_eq_read (text : Text) : parse text = Reader.start.read 0 text := by
  simpa [parse] using Reader.start.run_finish 0 text

/-! The reader between lexemes. -/

/-- Only between two lexemes may white space come. -/
def Mode.IsBoundary : Mode → Prop
  | .between | .afterKey _ | .beforeValue _ => True
  | .inKey _ | .inQuote _ _ | .inEscape _ _ | .inWord _ _ _ => False

/-- What a whole lexeme does to a reader between lexemes. -/
def Reader.accept (reader : Reader) (lexeme : Lexeme) : Option Reader :=
  match reader.mode, lexeme with
  | .between, .name key => some { reader with mode := .afterKey key }
  | .between, .closing =>
    match reader.frames with
    | [] => none
    | frame :: outer =>
      some (Reader.addField ⟨reader.finished, outer, .between⟩
        (.nested frame.key frame.fields.reverse))
  | .afterKey key, .opening => some (reader.openBlock key)
  | .afterKey key, .colon =>
    if reader.frames.isEmpty then none else some { reader with mode := .beforeValue key }
  | .beforeValue key, .quoted text => some (reader.addField (.leaf key text))
  | .beforeValue key, .word value => some (reader.addField (.flag key value))
  | _, _ => none

/-- Lexemes one after the other. -/
def Reader.acceptAll (reader : Reader) : List Lexeme → Option Reader
  | [] => some reader
  | lexeme :: rest => reader.accept lexeme >>= fun next => next.acceptAll rest

/-- The state in which a text may end. -/
def Reader.ended (tokens : List Token) : Reader := ⟨tokens.reverse, [], .between⟩

/-- A text takes a reader between lexemes to its end. -/
def Reader.Finishes (reader : Reader) (text : Text) (tokens : List Token) : Prop :=
  ∃ lexemes, LaysOut lexemes text ∧ reader.acceptAll lexemes = some (Reader.ended tokens)

/-- A text takes a reader to its end, where the reader may be within a lexeme: the text then begins
with the rest of that lexeme. -/
def Reader.Completes (reader : Reader) (text : Text) (tokens : List Token) : Prop :=
  match reader.mode with
  | .between | .afterKey _ | .beforeValue _ => reader.Finishes text tokens
  | .inKey spelled => ∃ more rest, text = more ++ rest ∧ (∀ c ∈ more, isKeyChar c = true) ∧
      Reader.Finishes { reader with mode := .afterKey (spelled.reverse ++ more) } rest tokens
  | .inQuote key spelled => ∃ more rest, text = more ++ '"' :: rest ∧ Quotable more ∧
      (reader.addField (.leaf key (spelled.reverse ++ more))).Finishes rest tokens
  | .inEscape key spelled => ∃ c more rest, text = c :: (more ++ '"' :: rest) ∧ Quotable more ∧
      (reader.addField (.leaf key (spelled.reverse ++ c :: more))).Finishes rest tokens
  | .inWord key _ spelled => ∃ value more rest, text = more ++ rest ∧
      spelled.reverse ++ more = (Lexeme.word value).spelling ∧
      ¬ StartsWith isAlphanumeric rest ∧
      (reader.addField (.flag key value)).Finishes rest tokens

theorem Reader.Finishes.space {reader : Reader} {c : Char} {rest : Text} {tokens : List Token}
    (blank : isWhitespace c = true) (later : reader.Finishes rest tokens) :
    reader.Finishes (c :: rest) tokens := by
  obtain ⟨lexemes, laidOut, accepted⟩ := later
  refine ⟨lexemes, ?_, accepted⟩
  cases laidOut with
  | blank isBlank => exact .blank (List.forall_mem_cons.mpr ⟨blank, isBlank⟩)
  | @lexeme gap _ _ _ isBlank wellFormed ends later =>
    exact .lexeme (c :: gap) (List.forall_mem_cons.mpr ⟨blank, isBlank⟩) wellFormed ends later

theorem Reader.Finishes.lexeme {reader next : Reader} (first : Lexeme) {rest : Text}
    {tokens : List Token} (accepted : reader.accept first = some next)
    (wellFormed : first.WellFormed) (ends : first.EndsBefore rest)
    (later : next.Finishes rest tokens) : reader.Finishes (first.spelling ++ rest) tokens := by
  obtain ⟨lexemes, laidOut, acceptedLater⟩ := later
  refine ⟨first :: lexemes, ?_, ?_⟩
  · exact .lexeme [] (by simp [Blank]) wellFormed ends laidOut
  · simpa [Reader.acceptAll, accepted] using acceptedLater

/-! Each character that a reader takes goes in front of the text that completes it. -/

theorem Reader.stepBetween_finishes {reader next : Reader} {position : Nat} {c : Char}
    {rest : Text} {tokens : List Token} (boundary : reader.mode = .between)
    (stepped : reader.stepBetween position c = .ok next) (later : next.Completes rest tokens) :
    reader.Finishes (c :: rest) tokens := by
  obtain ⟨finished, frames, mode⟩ := reader
  subst boundary
  have named (step : Reader.stepBetween.stepName ⟨finished, frames, .between⟩ position c = .ok next) :
      Reader.Finishes ⟨finished, frames, .between⟩ (c :: rest) tokens := by
    unfold Reader.stepBetween.stepName at step
    split at step
    · rename_i isKey
      cases step
      obtain ⟨more, last, rfl, keys, finishes⟩ := later
      refine Reader.Finishes.lexeme (.name (c :: more)) rfl ?_ (by simp [Lexeme.EndsBefore])
        finishes
      exact ⟨by simp, List.forall_mem_cons.mpr ⟨isKey, keys⟩⟩
    · split at step <;> cases step
  unfold Reader.stepBetween at stepped
  split at stepped
  · rename_i blank
    cases stepped
    exact Reader.Finishes.space blank later
  · cases frames with
    | nil => exact named stepped
    | cons frame outer =>
      simp only at stepped
      split at stepped
      · rename_i same
        subst same
        have closed := Except.ok.inj stepped
        subst closed
        refine Reader.Finishes.lexeme .closing rfl trivial (by simp [Lexeme.EndsBefore]) ?_
        cases outer <;> exact later
      · exact named stepped

theorem Reader.stepAfterKey_finishes {reader next : Reader} {key : Text} {position : Nat} {c : Char}
    {rest : Text} {tokens : List Token} (boundary : reader.mode = .afterKey key)
    (stepped : reader.stepAfterKey key position c = .ok next) (later : next.Completes rest tokens) :
    reader.Finishes (c :: rest) tokens := by
  obtain ⟨finished, frames, mode⟩ := reader
  subst boundary
  unfold Reader.stepAfterKey at stepped
  split at stepped
  · rename_i blank
    cases stepped
    exact Reader.Finishes.space blank later
  · split at stepped
    · rename_i same
      subst same
      cases stepped
      exact Reader.Finishes.lexeme .opening rfl trivial (by simp [Lexeme.EndsBefore]) later
    · cases frames with
      | nil => cases stepped
      | cons frame outer =>
        simp only at stepped
        split at stepped
        · rename_i same
          subst same
          cases stepped
          exact Reader.Finishes.lexeme .colon rfl trivial (by simp [Lexeme.EndsBefore])
            later
        · cases stepped

theorem Reader.addField_mode (reader : Reader) (field : Field) :
    (reader.addField field).mode = .between := by
  unfold Reader.addField
  split <;> rfl

theorem Reader.endWord_ok {reader closed : Reader} {key spelled : Text} {start : Nat}
    (ended : reader.endWord key start spelled = .ok closed) :
    ∃ value, spelled.reverse = (Lexeme.word value).spelling ∧
      closed = reader.addField (.flag key value) := by
  unfold Reader.endWord flagOfWord? at ended
  split at ended
  · rename_i value recognized
    cases ended
    refine ⟨value, ?_, rfl⟩
    split at recognized
    · cases recognized
      assumption
    · split at recognized
      · cases recognized
        assumption
      · cases recognized
  · cases ended

/-! One step: what completes the next reader completes this one behind the character read. The modes
between lexemes stay between them; the modes within one put the character in front of its rest. -/

section Step

variable {reader next : Reader} {position : Nat} {c : Char} {rest : Text} {tokens : List Token}

theorem Reader.step_completes_of_inKey {spelled : Text} (within : reader.mode = .inKey spelled)
    (stepped : reader.step position c = .ok next) (later : next.Completes rest tokens) :
    reader.Completes (c :: rest) tokens := by
  obtain ⟨finished, frames, mode⟩ := reader
  subst within
  simp only [Reader.step] at stepped
  split at stepped
  · rename_i isKey
    cases stepped
    obtain ⟨more, last, rfl, keys, finishes⟩ := later
    refine ⟨c :: more, last, rfl, List.forall_mem_cons.mpr ⟨isKey, keys⟩, ?_⟩
    simpa using finishes
  · have finishes : Reader.Finishes ⟨finished, frames, .afterKey spelled.reverse⟩ (c :: rest)
        tokens := Reader.stepAfterKey_finishes rfl stepped later
    exact ⟨[], c :: rest, rfl, by simp, by simpa using finishes⟩

/-- An opened quotation whose rest closes it is a whole quoted lexeme. -/
theorem Reader.finishes_quoted {key : Text} (boundary : reader.mode = .beforeValue key)
    (later : Reader.Completes { reader with mode := .inQuote key [] } rest tokens) :
    reader.Finishes ('"' :: rest) tokens := by
  obtain ⟨finished, frames, mode⟩ := reader
  subst boundary
  obtain ⟨more, last, rfl, quotable, finishes⟩ := later
  have spelled : Reader.Finishes ⟨finished, frames, .beforeValue key⟩ _ tokens :=
    Reader.Finishes.lexeme (.quoted more) rfl quotable (by simp [Lexeme.EndsBefore]) finishes
  simpa [Lexeme.spelling] using spelled

/-- A begun word whose rest ends it is a whole word lexeme. -/
theorem Reader.finishes_word {key : Text} (boundary : reader.mode = .beforeValue key)
    (later : Reader.Completes { reader with mode := .inWord key position [c] } rest tokens) :
    reader.Finishes (c :: rest) tokens := by
  obtain ⟨finished, frames, mode⟩ := reader
  subst boundary
  obtain ⟨value, more, last, rfl, same, ends, finishes⟩ := later
  have spelled : Reader.Finishes ⟨finished, frames, .beforeValue key⟩ _ tokens :=
    Reader.Finishes.lexeme (.word value) rfl trivial (fun _ _ => ends) finishes
  rw [← same] at spelled
  simpa using spelled

theorem Reader.step_finishes_of_beforeValue {key : Text}
    (boundary : reader.mode = .beforeValue key) (stepped : reader.step position c = .ok next)
    (later : next.Completes rest tokens) : reader.Finishes (c :: rest) tokens := by
  obtain ⟨finished, frames, mode⟩ := reader
  subst boundary
  simp only [Reader.step] at stepped
  split at stepped
  · rename_i blank
    cases stepped
    exact Reader.Finishes.space blank later
  · split at stepped
    · rename_i same
      subst same
      cases stepped
      exact Reader.finishes_quoted rfl later
    · split at stepped
      · cases stepped
        exact Reader.finishes_word rfl later
      · cases stepped

theorem Reader.step_completes_of_inQuote {key spelled : Text}
    (within : reader.mode = .inQuote key spelled) (stepped : reader.step position c = .ok next)
    (later : next.Completes rest tokens) : reader.Completes (c :: rest) tokens := by
  obtain ⟨finished, frames, mode⟩ := reader
  subst within
  simp only [Reader.step] at stepped
  split at stepped
  · rename_i same
    subst same
    cases stepped
    have finishes : (Reader.addField ⟨finished, frames, .inQuote key spelled⟩
        (.leaf key spelled.reverse)).Finishes rest tokens := by
      simpa only [Reader.Completes, Reader.addField_mode] using later
    exact ⟨[], rest, rfl, .nil, by simpa using finishes⟩
  · rename_i noQuote
    split at stepped
    · rename_i same
      subst same
      cases stepped
      obtain ⟨c, more, last, rfl, quotable, finishes⟩ := later
      refine ⟨'\\' :: c :: more, last, rfl, .pair quotable, ?_⟩
      simpa [Reader.addField] using finishes
    · rename_i noBackslash
      cases stepped
      obtain ⟨more, last, rfl, quotable, finishes⟩ := later
      refine ⟨c :: more, last, rfl, .plain noQuote noBackslash quotable, ?_⟩
      simpa [Reader.addField] using finishes

theorem Reader.step_completes_of_inEscape {key spelled : Text}
    (within : reader.mode = .inEscape key spelled) (stepped : reader.step position c = .ok next)
    (later : next.Completes rest tokens) : reader.Completes (c :: rest) tokens := by
  obtain ⟨finished, frames, mode⟩ := reader
  subst within
  cases stepped
  obtain ⟨more, last, rfl, quotable, finishes⟩ := later
  refine ⟨c, more, last, rfl, quotable, ?_⟩
  simpa [Reader.addField] using finishes

theorem Reader.step_completes_of_inWord {key spelled : Text} {start : Nat}
    (within : reader.mode = .inWord key start spelled)
    (stepped : reader.step position c = .ok next) (later : next.Completes rest tokens) :
    reader.Completes (c :: rest) tokens := by
  obtain ⟨finished, frames, mode⟩ := reader
  subst within
  simp only [Reader.step] at stepped
  split at stepped
  · cases stepped
    obtain ⟨value, more, last, rfl, same, ends, finishes⟩ := later
    exact ⟨value, c :: more, last, rfl, by simpa using same, ends, finishes⟩
  · rename_i noWord
    cases ended : Reader.endWord ⟨finished, frames, .inWord key start spelled⟩ key start spelled with
    | error fault => simp [ended, bind, Except.bind] at stepped
    | ok closed =>
      have closing : closed.stepBetween position c = .ok next := by
        simpa [ended, bind, Except.bind] using stepped
      obtain ⟨value, same, rfl⟩ := Reader.endWord_ok ended
      exact ⟨value, [], c :: rest, rfl, by simpa using same, by simpa using noWord,
        Reader.stepBetween_finishes (Reader.addField_mode _ _) closing later⟩

theorem Reader.step_completes (stepped : reader.step position c = .ok next)
    (later : next.Completes rest tokens) : reader.Completes (c :: rest) tokens := by
  cases mode : reader.mode with
  | inKey spelled => exact Reader.step_completes_of_inKey mode stepped later
  | inQuote key spelled => exact Reader.step_completes_of_inQuote mode stepped later
  | inEscape key spelled => exact Reader.step_completes_of_inEscape mode stepped later
  | inWord key start spelled => exact Reader.step_completes_of_inWord mode stepped later
  | between =>
    have between : reader.stepBetween position c = .ok next := by
      simpa only [Reader.step, mode] using stepped
    simpa only [Reader.Completes, mode] using Reader.stepBetween_finishes mode between later
  | afterKey key =>
    have afterKey : reader.stepAfterKey key position c = .ok next := by
      simpa only [Reader.step, mode] using stepped
    simpa only [Reader.Completes, mode] using Reader.stepAfterKey_finishes mode afterKey later
  | beforeValue key =>
    simpa only [Reader.Completes, mode] using
      Reader.step_finishes_of_beforeValue mode stepped later

end Step

theorem Reader.finishBetween_finishes {reader : Reader} {position : Nat} {tokens : List Token}
    (boundary : reader.mode = .between) (ended : reader.finishBetween position = .ok tokens) :
    reader.Finishes [] tokens := by
  obtain ⟨finished, frames, mode⟩ := reader
  subst boundary
  cases frames with
  | nil =>
    have same : finished.reverse = tokens := Except.ok.inj ended
    refine ⟨[], .blank (by simp [Blank]), ?_⟩
    simp [Reader.acceptAll, Reader.ended, ← same]
  | cons frame outer => cases ended

theorem Reader.finish_completes {reader : Reader} {position : Nat} {tokens : List Token}
    (ended : reader.finish position = .ok tokens) : reader.Completes [] tokens := by
  obtain ⟨finished, frames, mode⟩ := reader
  cases mode with
  | between => exact Reader.finishBetween_finishes rfl ended
  | inKey spelled => cases ended
  | afterKey key => cases ended
  | beforeValue key => cases ended
  | inQuote key spelled => cases ended
  | inEscape key spelled => cases ended
  | inWord key start spelled =>
    simp only [Reader.finish] at ended
    cases closing : Reader.endWord ⟨finished, frames, .inWord key start spelled⟩ key start spelled with
    | error fault => simp [closing, bind, Except.bind] at ended
    | ok closed =>
      have last : closed.finishBetween position = .ok tokens := by
        simpa [closing, bind, Except.bind] using ended
      obtain ⟨value, same, rfl⟩ := Reader.endWord_ok closing
      exact ⟨value, [], [], rfl, by simpa using same, startsWith_nil,
        Reader.finishBetween_finishes (Reader.addField_mode _ _) last⟩

/-- A whole run: a text that is read to its end completes the reader. -/
theorem Reader.read_completes {reader : Reader} {position : Nat} {text : Text}
    {tokens : List Token} (success : reader.read position text = .ok tokens) :
    reader.Completes text tokens := by
  induction text generalizing reader position with
  | nil => exact Reader.finish_completes success
  | cons c rest ih =>
    cases stepped : reader.step position c with
    | error fault => simp [Reader.read, stepped, bind, Except.bind] at success
    | ok next =>
      have later : next.read (position + c.utf8Size) rest = .ok tokens := by
        simpa [Reader.read, stepped, bind, Except.bind] using success
      exact Reader.step_completes stepped (ih later)

end SpokenForm.TaggedText
