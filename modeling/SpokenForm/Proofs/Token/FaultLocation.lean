import SpokenForm.Proofs.Token.RoundTrip

/-! Errors locate the fault. A reader can be completed to the end of a text from every state but that
within a word that is no truth value, so a character that is refused stands behind a text that can be
continued, and with it no text can. -/
namespace SpokenForm

open Unicode

namespace TaggedText

/-- Some accepted text begins with this one. -/
def Extendable (text : Text) : Prop := ∃ rest tokens, parse (text ++ rest) = .ok tokens

/-- At a place of a text, counted in bytes, stands a character which no text behind it can repair, and
the text in front of it can be continued. -/
def BreaksAt (text : Text) (position : Nat) (found : Char) : Prop :=
  ∃ before after, text = before ++ found :: after ∧ position = before.utf8Length ∧
    Extendable before ∧ ¬ Extendable (before ++ [found])

/-- Letters and digits, with none in front of them and none behind. -/
structure IsRun (before run after : Text) : Prop where
  nonempty : run ≠ []
  letters : ∀ c ∈ run, isAlphanumeric c = true
  starts : ∀ c ∈ before.getLast?, isAlphanumeric c = false
  ends : ¬ StartsWith isAlphanumeric after

end TaggedText

open TaggedText

/-- The error is raised where the text goes wrong. -/
def ParseError.Locates (text : Text) : ParseError → Prop
  | unexpectedEnd position _ => position = text.utf8Length ∧ Extendable text
  | unexpectedChar position found _ => BreaksAt text position found
  | emptyKey position => BreaksAt text position ':' ∨ BreaksAt text position '{'
  | invalidValue position value => ∃ before after, text = before ++ (value ++ after) ∧
      position = before.utf8Length ∧ IsRun before value after ∧ value ≠ "true".toList ∧
      value ≠ "false".toList ∧ Extendable before

def ParseError.Names (position : Nat) (c : Char) : ParseError → Prop
  | unexpectedChar place found _ => place = position ∧ found = c
  | emptyKey place => place = position ∧ (c = ':' ∨ c = '{')
  | unexpectedEnd _ _ | invalidValue _ _ => False

namespace TaggedText

/-! A reader that is not within a wrong word can be completed. -/

/-- Some text takes the reader to its end, wherever it stands. -/
def Reader.Completable (reader : Reader) : Prop :=
  ∃ rest tokens, ∀ position, reader.read position rest = .ok tokens

theorem Reader.Completable.of_leads {reader next : Reader} (front : Text)
    (leads : ∀ rest, reader.Leads (front ++ rest) next rest) (later : next.Completable) :
    reader.Completable := by
  obtain ⟨rest, tokens, reads⟩ := later
  refine ⟨front ++ rest, tokens, fun position => ?_⟩
  obtain ⟨behind, same⟩ := leads rest position
  exact same.trans (reads behind)

theorem Reader.acceptAll_closing (reader : Reader) (boundary : reader.mode = .between) :
    ∃ tokens, reader.acceptAll (List.replicate reader.frames.length .closing) =
      some (Reader.ended tokens) := by
  obtain ⟨finished, frames, mode⟩ := reader
  obtain rfl : mode = .between := boundary
  -- Each brace closes one block, and its fields go to the block around it.
  generalize count : frames.length = depth
  induction depth generalizing finished frames with
  | zero =>
    obtain rfl := List.length_eq_zero_iff.mp count
    exact ⟨finished.reverse, by simp [Reader.acceptAll, Reader.ended]⟩
  | succ depth ih =>
    obtain ⟨frame, outer, rfl⟩ := List.exists_cons_of_length_eq_add_one count
    have fewer : outer.length = depth := Nat.succ.inj count
    cases outer with
    | nil => exact ih ([.nested frame.key frame.fields.reverse] :: finished) [] fewer
    | cons next outer =>
      exact ih finished (⟨next.key, .nested frame.key frame.fields.reverse :: next.fields⟩ :: outer)
        fewer

theorem Reader.Completable.of_accepted {reader : Reader} (boundary : reader.mode.IsBoundary)
    {lexemes : List Lexeme} (wellFormed : ∀ lexeme ∈ lexemes, lexeme.WellFormed) {tokens : List Token}
    (accepted : reader.acceptAll lexemes = some (Reader.ended tokens)) : reader.Completable :=
  ⟨lexemes.flatMap Lexeme.spaced, tokens,
    Reader.read_of_laysOut (LaysOut.spaced wellFormed) boundary accepted⟩

theorem Reader.completable_of_boundary {reader : Reader} (boundary : reader.mode.IsBoundary) :
    reader.Completable := by
  have closings (count : Nat) :
      ∀ lexeme ∈ List.replicate count Lexeme.closing, lexeme.WellFormed := by
    intro lexeme member
    rw [List.eq_of_mem_replicate member]
    trivial
  obtain ⟨finished, frames, mode⟩ := reader
  cases mode with
  | between =>
    obtain ⟨tokens, closed⟩ := Reader.acceptAll_closing ⟨finished, frames, .between⟩ rfl
    exact .of_accepted trivial (closings _) closed
  | afterKey key =>
    obtain ⟨tokens, closed⟩ :=
      Reader.acceptAll_closing (Reader.openBlock ⟨finished, frames, .afterKey key⟩ key) rfl
    have opened : Reader.acceptAll ⟨finished, frames, .afterKey key⟩
        (.opening :: List.replicate (frames.length + 1) .closing) = some (Reader.ended tokens) := closed
    refine .of_accepted trivial ?_ opened
    exact List.forall_mem_cons.mpr ⟨trivial, closings _⟩
  | beforeValue key =>
    obtain ⟨tokens, closed⟩ := Reader.acceptAll_closing _
      (Reader.addField_mode ⟨finished, frames, .beforeValue key⟩ (.flag key true))
    have valued : Reader.acceptAll ⟨finished, frames, .beforeValue key⟩
        (.word true :: List.replicate _ .closing) = some (Reader.ended tokens) := closed
    refine .of_accepted trivial ?_ valued
    exact List.forall_mem_cons.mpr ⟨trivial, closings _⟩
  | inKey _ | inQuote _ _ | inEscape _ _ | inWord _ _ _ => exact boundary.elim

theorem Reader.completable_of_between {reader : Reader} (boundary : reader.mode = .between) :
    reader.Completable :=
  completable_of_boundary (by rw [boundary]; trivial)

theorem Reader.completable_of_inKey (finished : List Token) (frames : List Frame) (spelled : Text) :
    Reader.Completable ⟨finished, frames, .inKey spelled⟩ := by
  have behind : Reader.Completable ⟨finished, frames, .afterKey spelled.reverse⟩ :=
    completable_of_boundary trivial
  refine .of_leads [' '] (fun rest => .step fun position => ?_) behind
  simp [Reader.step, Reader.stepAfterKey, Text.isWhitespace_space,
    show isKeyChar ' ' = false by decide]

theorem Reader.completable_of_inQuote (finished : List Token) (frames : List Frame)
    (key spelled : Text) : Reader.Completable ⟨finished, frames, .inQuote key spelled⟩ := by
  refine .of_leads ['"'] (fun rest => .step fun position => ?_)
    (completable_of_between (Reader.addField_mode ⟨finished, frames, .inQuote key spelled⟩
      (.leaf key spelled.reverse)))
  simp [Reader.step]

theorem Reader.completable_of_inEscape (finished : List Token) (frames : List Frame)
    (key spelled : Text) : Reader.Completable ⟨finished, frames, .inEscape key spelled⟩ :=
  .of_leads ['"'] (fun _ => .step fun _ => rfl)
    (completable_of_inQuote finished frames key ('"' :: spelled))

theorem Reader.endWord_of_flag (reader : Reader) (key : Text) {spelled : Text} (start : Nat)
    {value : Bool} (isFlag : flagOfWord? spelled.reverse = some value) :
    reader.endWord key start spelled = .ok (reader.addField (.flag key value)) := by
  simp [Reader.endWord, isFlag]

theorem Reader.endWord_of_wrong (reader : Reader) (key : Text) {spelled : Text} (start : Nat)
    (wrong : flagOfWord? spelled.reverse = none) :
    reader.endWord key start spelled = .error (.invalidValue start spelled.reverse) := by
  simp [Reader.endWord, wrong]

theorem Reader.completable_of_word (finished : List Token) (frames : List Frame) (key : Text)
    (start : Nat) {spelled : Text} {value : Bool} (isFlag : flagOfWord? spelled.reverse = some value) :
    Reader.Completable ⟨finished, frames, .inWord key start spelled⟩ := by
  obtain ⟨value, same, -⟩ := Reader.endWord_ok (Reader.endWord_of_flag
    ⟨finished, frames, .inWord key start spelled⟩ key start isFlag)
  obtain rfl : spelled = (Lexeme.word value).spelling.reverse := by simp [← same]
  have closed := Reader.addField_mode ⟨finished, frames, .beforeValue key⟩ (.flag key value)
  have blank : Blank [' '] := by simp [Blank, Text.isWhitespace_space]
  -- A space ends the word.
  refine .of_leads [' '] (fun rest => ?_) (completable_of_between closed)
  have ends : ¬ StartsWith isAlphanumeric ([' '] ++ rest) :=
    fun letter => absurd (startsWith_cons.mp letter) (by decide)
  refine (Reader.leads_wordEnd finished frames key start value ends).trans ?_
  exact Reader.leads_blank (by rw [closed]; trivial) blank rest

/-- The reader is within a word that is no truth value so far. -/
def Reader.InWrongWord (reader : Reader) (start : Nat) (spelled : Text) : Prop :=
  ∃ key, reader.mode = .inWord key start spelled ∧ flagOfWord? spelled.reverse = none

/-! Which errors a reader can raise. -/

variable {reader next : Reader} {position : Nat} {c : Char} {fault : ParseError}

/-- Between fields a character is taken or named. -/
theorem Reader.stepBetween_cases (reader : Reader) (position : Nat) (c : Char) :
    (∃ next, reader.stepBetween position c = .ok next ∧
      (next.mode = .between ∨ next.mode = .inKey [c])) ∨
    ∃ fault, reader.stepBetween position c = .error fault ∧ fault.Names position c := by
  have named : (∃ next, Reader.stepBetween.stepName reader position c = .ok next ∧
      (next.mode = .between ∨ next.mode = .inKey [c])) ∨
      ∃ fault, Reader.stepBetween.stepName reader position c = .error fault ∧
        fault.Names position c := by
    unfold Reader.stepBetween.stepName
    split
    · exact .inl ⟨_, rfl, .inr rfl⟩
    · split
      · rename_i missing
        exact .inr ⟨_, rfl, rfl, missing⟩
      · exact .inr ⟨_, rfl, rfl, rfl⟩
  unfold Reader.stepBetween
  split
  · exact .inl ⟨_, rfl, .inl rfl⟩
  · split
    · split
      · exact .inl ⟨_, rfl, .inl (Reader.addField_mode _ _)⟩
      · exact named
    · exact named

/-- Behind a field name a character is taken or named, and only a colon leads to a value. -/
theorem Reader.stepAfterKey_cases (reader : Reader) (key : Text) (position : Nat) (c : Char) :
    (∃ next, reader.stepAfterKey key position c = .ok next ∧
      (next.mode = .afterKey key ∨ next.mode = .between ∨
        c = ':' ∧ next.mode = .beforeValue key)) ∨
    ∃ fault, reader.stepAfterKey key position c = .error fault ∧ fault.Names position c := by
  unfold Reader.stepAfterKey
  split
  · exact .inl ⟨_, rfl, .inl rfl⟩
  · split
    · exact .inl ⟨_, rfl, .inr (.inl rfl)⟩
    · split
      · exact .inr ⟨_, rfl, rfl, rfl⟩
      · split
        · rename_i same
          exact .inl ⟨_, rfl, .inr (.inr ⟨same, rfl⟩)⟩
        · exact .inr ⟨_, rfl, rfl, rfl⟩

theorem Reader.names_of_stepBetween (stepped : reader.stepBetween position c = .error fault) :
    fault.Names position c := by
  rcases reader.stepBetween_cases position c with ⟨next, taken, -⟩ | ⟨cause, refused, names⟩
  · cases taken.symm.trans stepped
  · cases refused.symm.trans stepped
    exact names

theorem Reader.names_of_stepAfterKey {key : Text}
    (stepped : reader.stepAfterKey key position c = .error fault) : fault.Names position c := by
  rcases reader.stepAfterKey_cases key position c with ⟨next, taken, -⟩ | ⟨cause, refused, names⟩
  · cases taken.symm.trans stepped
  · cases refused.symm.trans stepped
    exact names

/-- In front of a value, what is no blank, no quotation mark and no letter is refused. -/
theorem Reader.names_of_beforeValue {key : Text} (boundary : reader.mode = .beforeValue key)
    (failed : reader.step position c = .error fault) : fault.Names position c := by
  simp only [Reader.step, boundary] at failed
  split at failed
  · cases failed
  · split at failed
    · cases failed
    · split at failed
      · cases failed
      · cases failed
        exact ⟨rfl, rfl⟩

/-- A refused character is named, unless it ends a word that is no truth value: then the word is. -/
theorem Reader.step_eq_error (failed : reader.step position c = .error fault) :
    (reader.Completable ∧ fault.Names position c) ∨
      ∃ start spelled, reader.InWrongWord start spelled ∧ isAlphanumeric c = false ∧
        fault = .invalidValue start spelled.reverse := by
  obtain ⟨finished, frames, mode⟩ := reader
  cases mode with
  | between => exact .inl ⟨completable_of_boundary trivial, names_of_stepBetween failed⟩
  | afterKey key => exact .inl ⟨completable_of_boundary trivial, names_of_stepAfterKey failed⟩
  | inKey spelled =>
    simp only [Reader.step] at failed
    split at failed
    · cases failed
    · exact .inl ⟨completable_of_inKey finished frames spelled, names_of_stepAfterKey failed⟩
  | beforeValue key =>
    exact .inl ⟨completable_of_boundary trivial, names_of_beforeValue rfl failed⟩
  | inQuote key spelled =>
    simp only [Reader.step] at failed
    split at failed
    · cases failed
    · split at failed <;> cases failed
  | inEscape key spelled => cases failed
  | inWord key start spelled =>
    simp only [Reader.step] at failed
    split at failed
    · cases failed
    · rename_i noLetter
      cases isFlag : flagOfWord? spelled.reverse with
      | some value =>
        rw [endWord_of_flag _ _ _ isFlag] at failed
        exact .inl ⟨completable_of_word finished frames key start isFlag,
          names_of_stepBetween failed⟩
      | none =>
        rw [endWord_of_wrong _ _ _ isFlag] at failed
        cases failed
        exact .inr ⟨start, spelled, ⟨key, rfl, isFlag⟩, by simpa using noLetter, rfl⟩

/-- A text that ends too early is told so, unless it ends in a word that is no truth value. -/
theorem Reader.finish_eq_error (failed : reader.finish position = .error fault) :
    (reader.Completable ∧ ∃ expected, fault = .unexpectedEnd position expected) ∨
      ∃ start spelled, reader.InWrongWord start spelled ∧
        fault = .invalidValue start spelled.reverse := by
  have endsEarly {closed : Reader} (ended : closed.finishBetween position = .error fault) :
      ∃ expected, fault = .unexpectedEnd position expected := by
    unfold Reader.finishBetween at ended
    split at ended
    · cases ended
    · cases ended
      exact ⟨_, rfl⟩
  obtain ⟨finished, frames, mode⟩ := reader
  cases mode with
  | between => exact .inl ⟨completable_of_boundary trivial, endsEarly failed⟩
  | afterKey key =>
    cases failed
    exact .inl ⟨completable_of_boundary trivial, _, rfl⟩
  | inKey spelled =>
    cases failed
    exact .inl ⟨completable_of_inKey finished frames spelled, _, rfl⟩
  | beforeValue key =>
    cases failed
    exact .inl ⟨completable_of_boundary trivial, _, rfl⟩
  | inQuote key spelled =>
    cases failed
    exact .inl ⟨completable_of_inQuote finished frames key spelled, _, rfl⟩
  | inEscape key spelled =>
    cases failed
    exact .inl ⟨completable_of_inEscape finished frames key spelled, _, rfl⟩
  | inWord key start spelled =>
    simp only [Reader.finish] at failed
    cases isFlag : flagOfWord? spelled.reverse with
    | some value =>
      rw [endWord_of_flag _ _ _ isFlag] at failed
      exact .inl ⟨completable_of_word finished frames key start isFlag, endsEarly failed⟩
    | none =>
      rw [endWord_of_wrong _ _ _ isFlag] at failed
      cases failed
      exact .inr ⟨start, spelled, ⟨key, rfl, isFlag⟩, rfl⟩

/-! What a reader in front of a value, or within a word, has read. -/

/-- The characters that a reader has read, as far as its mode tells them. -/
def Reader.Behind (reader : Reader) (before : Text) : Prop :=
  match reader.mode with
  | .beforeValue _ => ∀ c ∈ before.getLast?, isAlphanumeric c = false
  | .inWord key start spelled => ∃ front, before = front ++ spelled.reverse ∧
      start = front.utf8Length ∧ spelled ≠ [] ∧ (∀ c ∈ spelled, isAlphanumeric c = true) ∧
      (∀ c ∈ front.getLast?, isAlphanumeric c = false) ∧
      Reader.start.run 0 front = .ok { reader with mode := .beforeValue key }
  | .between | .inKey _ | .afterKey _ | .inQuote _ _ | .inEscape _ _ => True

theorem Reader.behind_of_stepBetween {before : Text}
    (stepped : reader.stepBetween position c = .ok next) : next.Behind before := by
  rcases reader.stepBetween_cases position c with ⟨same, taken, mode⟩ | ⟨cause, refused, -⟩
  · cases taken.symm.trans stepped
    rcases mode with mode | mode
    · simp [Reader.Behind, mode]
    · simp [Reader.Behind, mode]
  · cases refused.symm.trans stepped

theorem Reader.behind_of_stepAfterKey {key before : Text}
    (stepped : reader.stepAfterKey key position c = .ok next) : next.Behind (before ++ [c]) := by
  rcases reader.stepAfterKey_cases key position c with ⟨same, taken, mode⟩ | ⟨cause, refused, -⟩
  · cases taken.symm.trans stepped
    rcases mode with mode | mode | ⟨rfl, mode⟩
    · simp [Reader.Behind, mode]
    · simp [Reader.Behind, mode]
    · simp [Reader.Behind, mode, show isAlphanumeric ':' = false by decide]
  · cases refused.symm.trans stepped

theorem utf8Length_append (front back : Text) :
    (front ++ back).utf8Length = front.utf8Length + back.utf8Length := by
  induction front with
  | nil => simp [Text.utf8Length]
  | cons c front ih => simp [Text.utf8Length, ih, Nat.add_assoc]

theorem Reader.run_append (reader : Reader) (position : Nat) (front back : Text) :
    reader.run position (front ++ back) =
      reader.run position front >>= fun next => next.run (position + front.utf8Length) back := by
  induction front generalizing reader position with
  | nil => rfl
  | cons c front ih =>
    cases stepped : reader.step position c with
    | error fault => simp [Reader.run, stepped, bind, Except.bind]
    | ok next =>
      have later := ih next (position + c.utf8Size)
      simpa [Reader.run, stepped, bind, Except.bind, Text.utf8Length, Nat.add_assoc] using later

theorem Reader.read_append {front : Text} (ran : reader.run position front = .ok next)
    (rest : Text) :
    reader.read position (front ++ rest) = next.read (position + front.utf8Length) rest := by
  rw [← Reader.run_finish, Reader.run_append, ran, utf8Length_append, ← Nat.add_assoc]
  exact Reader.run_finish next _ rest

/-- In front of a value: the first letter of a word comes behind what is no letter. -/
theorem Reader.Behind.step_beforeValue {key before : Text}
    (boundary : reader.mode = .beforeValue key) (behind : reader.Behind before)
    (ran : Reader.start.run 0 before = .ok reader)
    (stepped : reader.step before.utf8Length c = .ok next) : next.Behind (before ++ [c]) := by
  obtain ⟨finished, frames, mode⟩ := reader
  subst boundary
  simp only [Reader.step] at stepped
  split at stepped
  · rename_i blank
    cases stepped
    simp [Reader.Behind, not_alphanumeric_of_whitespace blank]
  · split at stepped
    · cases stepped
      trivial
    · split at stepped
      · rename_i letter
        cases stepped
        exact ⟨before, rfl, rfl, by simp, by simpa using letter, behind, ran⟩
      · cases stepped

/-- Within a word: one more letter belongs to it, and another character ends it. -/
theorem Reader.Behind.step_inWord {key spelled before : Text} {start : Nat}
    (within : reader.mode = .inWord key start spelled) (behind : reader.Behind before)
    (stepped : reader.step position c = .ok next) : next.Behind (before ++ [c]) := by
  obtain ⟨finished, frames, mode⟩ := reader
  subst within
  simp only [Reader.step] at stepped
  split at stepped
  · rename_i letter
    cases stepped
    obtain ⟨front, rfl, same, -, letters, starts, ranFront⟩ := behind
    exact ⟨front, by simp, same, by simp, List.forall_mem_cons.mpr ⟨letter, letters⟩, starts,
      ranFront⟩
  · cases isFlag : flagOfWord? spelled.reverse with
    | some value =>
      rw [endWord_of_flag _ _ _ isFlag] at stepped
      exact behind_of_stepBetween stepped
    | none =>
      rw [endWord_of_wrong _ _ _ isFlag] at stepped
      cases stepped

/-- One more character. -/
theorem Reader.Behind.step {before : Text} (behind : reader.Behind before)
    (ran : Reader.start.run 0 before = .ok reader)
    (stepped : reader.step before.utf8Length c = .ok next) : next.Behind (before ++ [c]) := by
  obtain ⟨finished, frames, mode⟩ := reader
  cases mode with
  | between => exact behind_of_stepBetween stepped
  | afterKey key => exact behind_of_stepAfterKey stepped
  | inKey spelled =>
    simp only [Reader.step] at stepped
    split at stepped
    · cases stepped
      trivial
    · exact behind_of_stepAfterKey stepped
  | beforeValue key => exact behind.step_beforeValue rfl ran stepped
  | inWord key start spelled => exact behind.step_inWord rfl stepped
  | inQuote key spelled =>
    simp only [Reader.step] at stepped
    split at stepped
    · cases stepped
      simp [Reader.Behind, Reader.addField_mode]
    · split at stepped
      · cases stepped
        trivial
      · cases stepped
        trivial
  | inEscape key spelled =>
    cases stepped
    trivial

/-! Errors of a whole text. -/

theorem parse_append {before : Text} (ran : Reader.start.run 0 before = .ok reader) (rest : Text) :
    parse (before ++ rest) = reader.read before.utf8Length rest := by
  rw [parse_eq_read, Reader.read_append ran, Nat.zero_add]

theorem extendable_of_run {before : Text} (ran : Reader.start.run 0 before = .ok reader)
    (completable : reader.Completable) : Extendable before := by
  obtain ⟨rest, tokens, reads⟩ := completable
  exact ⟨rest, tokens, (parse_append ran rest).trans (reads _)⟩

theorem not_extendable_of_step {before : Text} (ran : Reader.start.run 0 before = .ok reader)
    (failed : reader.step before.utf8Length c = .error fault) : ¬ Extendable (before ++ [c]) := by
  rintro ⟨rest, tokens, parsed⟩
  rw [List.append_assoc, parse_append ran, List.singleton_append, Reader.read, failed] at parsed
  cases parsed

theorem flagOfWord?_eq_none {word : Text} (wrong : flagOfWord? word = none) :
    word ≠ "true".toList ∧ word ≠ "false".toList := by
  unfold flagOfWord? at wrong
  split at wrong
  · cases wrong
  · split at wrong
    · cases wrong
    · exact ⟨by assumption, by assumption⟩

theorem locates_of_inWrongWord {before rest spelled : Text} {start : Nat}
    (behind : reader.Behind before) (wrong : reader.InWrongWord start spelled)
    (ends : ¬ StartsWith isAlphanumeric rest) :
    ParseError.Locates (before ++ rest) (.invalidValue start spelled.reverse) := by
  obtain ⟨finished, frames, mode⟩ := reader
  obtain ⟨key, rfl, noFlag⟩ := wrong
  obtain ⟨front, rfl, rfl, nonempty, letters, starts, ran⟩ := behind
  obtain ⟨notTrue, notFalse⟩ := flagOfWord?_eq_none noFlag
  exact ⟨front, rest, by simp, rfl, ⟨by simpa using nonempty, by simpa using letters, starts, ends⟩,
    notTrue, notFalse, extendable_of_run ran (Reader.completable_of_boundary trivial)⟩

theorem locates_of_names {before after : Text} (extendable : Extendable before)
    (broken : ¬ Extendable (before ++ [c])) (names : fault.Names before.utf8Length c) :
    fault.Locates (before ++ c :: after) := by
  have breaks : BreaksAt (before ++ c :: after) before.utf8Length c :=
    ⟨before, after, rfl, rfl, extendable, broken⟩
  cases fault with
  | unexpectedChar place found expected =>
    obtain ⟨rfl, rfl⟩ := names
    exact breaks
  | emptyKey place =>
    obtain ⟨rfl, rfl | rfl⟩ := names
    · exact .inl breaks
    · exact .inr breaks
  | unexpectedEnd _ _ | invalidValue _ _ => exact names.elim

/-- A reader that has got this far raises its error where the text goes wrong. -/
theorem locates_of_read {before rest : Text} (ran : Reader.start.run 0 before = .ok reader)
    (behind : reader.Behind before) (failed : reader.read before.utf8Length rest = .error fault) :
    fault.Locates (before ++ rest) := by
  induction rest generalizing before reader with
  | nil =>
    rcases Reader.finish_eq_error failed with
      ⟨completable, expected, rfl⟩ | ⟨start, spelled, wrong, rfl⟩
    · rw [List.append_nil]
      exact ⟨rfl, extendable_of_run ran completable⟩
    · exact locates_of_inWrongWord behind wrong startsWith_nil
  | cons c rest ih =>
    cases stepped : reader.step before.utf8Length c with
    | error cause =>
      obtain rfl : cause = fault := by
        simpa [Reader.read, stepped, bind, Except.bind] using failed
      rcases Reader.step_eq_error stepped with
        ⟨completable, names⟩ | ⟨start, spelled, wrong, noLetter, rfl⟩
      · exact locates_of_names (extendable_of_run ran completable) (not_extendable_of_step ran stepped)
          names
      · refine locates_of_inWrongWord behind wrong ?_
        rintro ⟨d, later, same, letter⟩
        obtain ⟨rfl, -⟩ := List.cons.inj same
        simp [noLetter] at letter
    | ok next =>
      have later : next.read (before ++ [c]).utf8Length rest = .error fault := by
        simpa [Reader.read, stepped, bind, Except.bind, utf8Length_append, Text.utf8Length]
          using failed
      have longer : Reader.start.run 0 (before ++ [c]) = .ok next := by
        rw [Reader.run_append, ran, Nat.zero_add]
        simp [Reader.run, stepped, bind, Except.bind]
      simpa using ih longer (behind.step ran stepped) later

/-- Where a text is refused, the error locates the fault: the text ends too early but can be continued,
or the character named is the first one that no continuation repairs, or the word named is no truth
value and stands where a value could stand. -/
theorem error_locates_fault {text : Text} {fault : ParseError} (refused : parse text = .error fault) :
    fault.Locates text := by
  rw [parse_eq_read] at refused
  have begun : Reader.start.Behind [] := trivial
  have located : fault.Locates ([] ++ text) := locates_of_read rfl begun refused
  exact located

/-- A sign stands behind a unit of two bytes, where a name could stand. -/
def measureWithSign : Text := "tokens \x7b measure \x7b units: \"Ω\"; \x7d \x7d".toList

/-- A text that ends between a backslash and the character it pairs with. -/
def nameWithinEscape : Text := "tokens \x7b name: \"a\\".toList

/-- A number stands without quotes. -/
def bareInteger : Text := "tokens \x7b cardinal \x7b integer: 12 \x7d \x7d".toList

theorem error_locates_fault_measure :
    (parse measureWithSign = .error (.unexpectedChar 30 ';' .key) ∧
      BreaksAt measureWithSign 30 ';') ∧
    (parse nameWithinEscape = .error (.unexpectedEnd 18 .closingQuote) ∧
      18 = nameWithinEscape.utf8Length ∧ Extendable nameWithinEscape) ∧
    (parse bareInteger = .error (.invalidValue 29 "12".toList) ∧
      (ParseError.invalidValue 29 "12".toList).Locates bareInteger) := by
  have sign : parse measureWithSign = .error (.unexpectedChar 30 ';' .key) := rfl
  have escape : parse nameWithinEscape = .error (.unexpectedEnd 18 .closingQuote) := rfl
  have bare : parse bareInteger = .error (.invalidValue 29 "12".toList) := rfl
  exact ⟨⟨sign, error_locates_fault sign⟩, ⟨escape, error_locates_fault escape⟩, bare,
    error_locates_fault bare⟩

end TaggedText

end SpokenForm
