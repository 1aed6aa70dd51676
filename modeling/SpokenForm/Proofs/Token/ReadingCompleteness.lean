import SpokenForm.Proofs.Token.ReadingSoundness

/-! What is laid out from lexemes is read. A reader between lexemes takes each lexeme whole, so it
ends as it would by lexemes alone. Positions only tell where a fault is, so they are left open. -/
namespace SpokenForm.TaggedText

open Unicode

/-- Reading a text from one reader comes down to reading the rest of it from another. -/
def Reader.Leads (reader : Reader) (text : Text) (next : Reader) (rest : Text) : Prop :=
  ∀ position, ∃ later, reader.read position text = next.read later rest

theorem Reader.Leads.refl (reader : Reader) (text : Text) : reader.Leads text reader text :=
  fun position => ⟨position, rfl⟩

theorem Reader.Leads.trans {first second third : Reader} {text middle rest : Text}
    (before : first.Leads text second middle) (after : second.Leads middle third rest) :
    first.Leads text third rest := by
  intro position
  obtain ⟨between, same⟩ := before position
  obtain ⟨later, alike⟩ := after between
  exact ⟨later, same.trans alike⟩

theorem Reader.Leads.step {reader next : Reader} {c : Char} {rest : Text}
    (stepped : ∀ position, reader.step position c = .ok next) :
    reader.Leads (c :: rest) next rest := by
  intro position
  exact ⟨position + c.utf8Size, by simp [Reader.read, stepped, bind, Except.bind]⟩

theorem Reader.leads_blank {reader : Reader} (boundary : reader.mode.IsBoundary) {gap : Text}
    (isBlank : Blank gap) (rest : Text) : reader.Leads (gap ++ rest) reader rest := by
  induction gap with
  | nil => exact .refl reader rest
  | cons c gap ih =>
    obtain ⟨blank, others⟩ := List.forall_mem_cons.mp isBlank
    refine Reader.Leads.trans (.step fun position => ?_) (ih others)
    obtain ⟨finished, frames, mode⟩ := reader
    cases mode with
    | between => simp [Reader.step, Reader.stepBetween, blank]
    | afterKey key => simp [Reader.step, Reader.stepAfterKey, blank]
    | beforeValue key => simp [Reader.step, blank]
    | inKey _ | inQuote _ _ | inEscape _ _ | inWord _ _ _ => exact boundary.elim

/-- A mode that collects characters of a class, last one first, takes a whole run of them. -/
theorem Reader.leads_collected {isMember : Char → Bool} (collecting : Text → Reader)
    (stepped : ∀ spelled position c, isMember c = true →
      (collecting spelled).step position c = .ok (collecting (c :: spelled)))
    (spelled : Text) {more : Text} (members : ∀ c ∈ more, isMember c = true) (rest : Text) :
    (collecting spelled).Leads (more ++ rest) (collecting (more.reverse ++ spelled)) rest := by
  induction more generalizing spelled with
  | nil => exact .refl _ _
  | cons c more ih =>
    obtain ⟨isMember, others⟩ := List.forall_mem_cons.mp members
    have later := ih (c :: spelled) others
    simp only [List.reverse_cons, List.append_assoc, List.singleton_append] at later ⊢
    exact Reader.Leads.trans (.step fun position => stepped spelled position c isMember) later

/-- A name is complete where no name character goes on. -/
theorem Reader.leads_nameEnd (finished : List Token) (frames : List Frame) (spelled : Text)
    {rest : Text} (ends : ¬ StartsWith isKeyChar rest) :
    Reader.Leads ⟨finished, frames, .inKey spelled⟩ rest
      ⟨finished, frames, .afterKey spelled.reverse⟩ rest := by
  intro position
  refine ⟨position, ?_⟩
  cases rest with
  | nil => rfl
  | cons c later =>
    have noKey : isKeyChar c = false := by simpa using ends
    simp [Reader.read, Reader.step, noKey, Reader.stepAfterKey, Reader.openBlock]

theorem Reader.leads_name (finished : List Token) (frames : List Frame) {key : Text}
    (isName : IsName key) {rest : Text} (ends : ¬ StartsWith isKeyChar rest) :
    Reader.Leads ⟨finished, frames, .between⟩ (key ++ rest) ⟨finished, frames, .afterKey key⟩
      rest := by
  obtain ⟨nonempty, keys⟩ := isName
  cases key with
  | nil => exact absurd rfl nonempty
  | cons c more =>
    obtain ⟨isKey, others⟩ := List.forall_mem_cons.mp keys
    have space := not_whitespace_of_keyChar isKey
    have notClosing : c ≠ '\x7d' := by
      rintro rfl
      exact absurd isKey (by decide)
    have opens : Reader.Leads ⟨finished, frames, .between⟩ (c :: (more ++ rest))
        ⟨finished, frames, .inKey [c]⟩ (more ++ rest) := by
      refine .step fun position => ?_
      cases frames <;>
        simp [Reader.step, Reader.stepBetween, Reader.stepBetween.stepName, space, notClosing, isKey]
    have within := Reader.leads_collected (fun spelled => ⟨finished, frames, .inKey spelled⟩)
      (fun _ _ _ isKey => by simp [Reader.step, isKey]) [c] others rest
    have last := Reader.leads_nameEnd finished frames (more.reverse ++ [c]) ends
    rw [List.reverse_append, List.reverse_reverse] at last
    exact (opens.trans within).trans last

theorem Reader.leads_quoted (finished : List Token) (frames : List Frame) (key : Text)
    {text : Text} (quotable : Quotable text) (rest : Text) :
    Reader.Leads ⟨finished, frames, .beforeValue key⟩ ((Lexeme.quoted text).spelling ++ rest)
      (Reader.addField ⟨finished, frames, .beforeValue key⟩ (.leaf key text)) rest := by
  have within (spelled : Text) :
      Reader.Leads ⟨finished, frames, .inQuote key spelled⟩ (text ++ '"' :: rest)
        (Reader.addField ⟨finished, frames, .beforeValue key⟩
          (.leaf key (spelled.reverse ++ text))) rest := by
    induction quotable generalizing spelled with
    | nil =>
      refine .step fun position => ?_
      simp [Reader.step, Reader.addField]
    | @plain c text noQuote noBackslash _ ih =>
      have first : Reader.Leads ⟨finished, frames, .inQuote key spelled⟩ (c :: (text ++ '"' :: rest))
          ⟨finished, frames, .inQuote key (c :: spelled)⟩ (text ++ '"' :: rest) :=
        .step fun position => by simp [Reader.step, noQuote, noBackslash]
      simpa using first.trans (ih (c :: spelled))
    | @pair c text _ ih =>
      have first : Reader.Leads ⟨finished, frames, .inQuote key spelled⟩
          ('\\' :: c :: (text ++ '"' :: rest))
          ⟨finished, frames, .inEscape key ('\\' :: spelled)⟩ (c :: (text ++ '"' :: rest)) :=
        .step fun position => by simp [Reader.step]
      have second : Reader.Leads ⟨finished, frames, .inEscape key ('\\' :: spelled)⟩
          (c :: (text ++ '"' :: rest))
          ⟨finished, frames, .inQuote key (c :: '\\' :: spelled)⟩ (text ++ '"' :: rest) :=
        .step fun position => by simp [Reader.step]
      simpa using (first.trans second).trans (ih (c :: '\\' :: spelled))
  have opens : Reader.Leads ⟨finished, frames, .beforeValue key⟩ ('"' :: (text ++ '"' :: rest))
      ⟨finished, frames, .inQuote key []⟩ (text ++ '"' :: rest) :=
    .step fun position => by simp [Reader.step, show isWhitespace '"' = false by decide]
  simpa [Lexeme.spelling] using opens.trans (within [])

theorem Reader.endWord_word (reader : Reader) (key : Text) (start : Nat) (value : Bool) :
    reader.endWord key start (Lexeme.word value).spelling.reverse =
      .ok (reader.addField (.flag key value)) := by
  cases value <;> rfl

theorem Reader.step_of_between {reader : Reader} (boundary : reader.mode = .between)
    (position : Nat) (c : Char) : reader.step position c = reader.stepBetween position c := by
  simp [Reader.step, boundary]

theorem Reader.finish_of_between {reader : Reader} (boundary : reader.mode = .between)
    (position : Nat) : reader.finish position = reader.finishBetween position := by
  simp [Reader.finish, boundary]

/-- A truth value is only complete when it is clear that no letter follows. -/
theorem Reader.leads_wordEnd (finished : List Token) (frames : List Frame) (key : Text)
    (start : Nat) (value : Bool) {rest : Text} (ends : ¬ StartsWith isAlphanumeric rest) :
    Reader.Leads ⟨finished, frames, .inWord key start (Lexeme.word value).spelling.reverse⟩ rest
      (Reader.addField ⟨finished, frames, .beforeValue key⟩ (.flag key value)) rest := by
  have closed := Reader.addField_mode ⟨finished, frames, .beforeValue key⟩ (.flag key value)
  intro position
  refine ⟨position, ?_⟩
  cases rest with
  | nil =>
    simp only [Reader.read, Reader.finish_of_between closed]
    simp only [Reader.finish, Reader.endWord_word]
    rfl
  | cons c later =>
    have noLetter : isAlphanumeric c = false := by simpa using ends
    simp only [Reader.read, Reader.step_of_between closed]
    simp only [Reader.step, noLetter, Reader.endWord_word]
    rfl

theorem Reader.leads_word (finished : List Token) (frames : List Frame) (key : Text)
    (value : Bool) {rest : Text} (ends : ¬ StartsWith isAlphanumeric rest) :
    Reader.Leads ⟨finished, frames, .beforeValue key⟩ ((Lexeme.word value).spelling ++ rest)
      (Reader.addField ⟨finished, frames, .beforeValue key⟩ (.flag key value)) rest := by
  have spelled : ∃ c more, (Lexeme.word value).spelling = c :: more ∧ isWhitespace c = false ∧
      c ≠ '"' ∧ (c :: more).all isAlphanumeric = true := by
    cases value
    · exact ⟨'f', ['a', 'l', 's', 'e'], by decide⟩
    · exact ⟨'t', ['r', 'u', 'e'], by decide⟩
  obtain ⟨c, more, same, noSpace, noQuote, letters⟩ := spelled
  obtain ⟨letter, others⟩ := List.forall_mem_cons.mp (List.all_eq_true.mp letters)
  intro position
  have within := Reader.leads_collected
    (fun spelled => ⟨finished, frames, .inWord key position spelled⟩)
    (fun _ _ _ letter => by simp [Reader.step, letter]) [c] others rest
  have whole := within.trans
    (by simpa [same] using Reader.leads_wordEnd finished frames key position value ends)
  obtain ⟨later, alike⟩ := whole (position + c.utf8Size)
  refine ⟨later, ?_⟩
  rw [same, List.cons_append, ← alike]
  simp [Reader.read, Reader.step, noSpace, noQuote, letter, bind, Except.bind]

theorem Reader.accept_boundary {reader next : Reader} {lexeme : Lexeme}
    (accepted : reader.accept lexeme = some next) : next.mode.IsBoundary := by
  unfold Reader.accept at accepted
  split at accepted
  · cases accepted
    trivial
  · split at accepted
    · cases accepted
    · cases accepted
      simp [Reader.addField_mode, Mode.IsBoundary]
  · cases accepted
    trivial
  · split at accepted
    · cases accepted
    · cases accepted
      trivial
  · cases accepted
    simp [Reader.addField_mode, Mode.IsBoundary]
  · cases accepted
    simp [Reader.addField_mode, Mode.IsBoundary]
  · cases accepted

/-- A reader takes a whole lexeme as its characters. A name ends where no name character goes on. -/
theorem Reader.leads_lexeme {reader next : Reader} {first : Lexeme} {rest : Text}
    (accepted : reader.accept first = some next) (wellFormed : first.WellFormed)
    (ends : first.EndsBefore rest)
    (nameEnds : ∀ key, first = .name key → ¬ StartsWith isKeyChar rest) :
    reader.Leads (first.spelling ++ rest) next rest := by
  obtain ⟨finished, frames, mode⟩ := reader
  unfold Reader.accept at accepted
  split at accepted
  · rename_i key boundary
    obtain rfl : mode = .between := boundary
    cases accepted
    exact Reader.leads_name finished frames wellFormed (nameEnds key rfl)
  · rename_i boundary
    obtain rfl : mode = .between := boundary
    cases frames with
    | nil => cases accepted
    | cons frame outer =>
      cases accepted
      exact .step fun position => by
        simp [Reader.step, Reader.stepBetween, show isWhitespace '\x7d' = false by decide]
  · rename_i key boundary
    obtain rfl : mode = .afterKey key := boundary
    cases accepted
    exact .step fun position => by
      simp [Reader.step, Reader.stepAfterKey, show isWhitespace '\x7b' = false by decide]
  · rename_i key boundary
    obtain rfl : mode = .afterKey key := boundary
    cases frames with
    | nil => cases accepted
    | cons frame outer =>
      cases accepted
      exact .step fun position => by
        simp [Reader.step, Reader.stepAfterKey, show isWhitespace ':' = false by decide]
  · rename_i key text boundary
    obtain rfl : mode = .beforeValue key := boundary
    cases accepted
    exact Reader.leads_quoted finished frames key wellFormed rest
  · rename_i key value boundary
    obtain rfl : mode = .beforeValue key := boundary
    cases accepted
    exact Reader.leads_word finished frames key value (ends value rfl)
  · cases accepted

/-- Behind a name comes a colon or a brace, with or without white space in front. -/
theorem Reader.name_ends {reader : Reader} {key : Text} {lexemes : List Lexeme} {rest : Text}
    {tokens : List Token} (boundary : reader.mode = .afterKey key) (laidOut : LaysOut lexemes rest)
    (accepted : reader.acceptAll lexemes = some (Reader.ended tokens)) :
    ¬ StartsWith isKeyChar rest := by
  rintro ⟨c, others, same, isKey⟩
  cases laidOut with
  | blank _ =>
    have ended : reader = Reader.ended tokens := Option.some.inj accepted
    simp [ended, Reader.ended] at boundary
  | @lexeme gap later first lexemes isBlank _ _ _ =>
    cases gap with
    | cons d gap =>
      obtain ⟨rfl, -⟩ := List.cons.inj same
      have blank := isBlank d (List.mem_cons_self ..)
      simp [not_keyChar_of_whitespace blank] at isKey
    | nil =>
      obtain ⟨finished, frames, mode⟩ := reader
      subst boundary
      cases first with
      | colon | opening =>
        obtain ⟨rfl, -⟩ := List.cons.inj same
        exact absurd isKey (by decide)
      | name _ | quoted _ | word _ | closing => simp [Reader.acceptAll, Reader.accept] at accepted

/-- A layout is read to its end when the reader accepts its lexemes. -/
theorem Reader.read_of_laysOut {lexemes : List Lexeme} {text : Text} (laidOut : LaysOut lexemes text)
    {reader : Reader} {tokens : List Token} (boundary : reader.mode.IsBoundary)
    (accepted : reader.acceptAll lexemes = some (Reader.ended tokens)) (position : Nat) :
    reader.read position text = .ok tokens := by
  induction laidOut generalizing reader position with
  | @blank gap isBlank =>
    obtain ⟨later, same⟩ := Reader.leads_blank boundary isBlank [] position
    rw [List.append_nil] at same
    have ended : reader = Reader.ended tokens := Option.some.inj accepted
    rw [same, ended]
    simp [Reader.read, Reader.finish, Reader.finishBetween, Reader.ended]
  | @lexeme gap rest first lexemes isBlank wellFormed ends later ih =>
    cases taken : reader.accept first with
    | none => simp [Reader.acceptAll, taken] at accepted
    | some next =>
      have acceptedLater : next.acceptAll lexemes = some (Reader.ended tokens) := by
        simpa [Reader.acceptAll, taken] using accepted
      have nameEnds (key : Text) (isName : first = .name key) : ¬ StartsWith isKeyChar rest := by
        have named : next.mode = .afterKey key := by
          subst isName
          obtain ⟨finished, frames, mode⟩ := reader
          cases mode with
          | between =>
            cases taken
            rfl
          | _ => simp [Reader.accept] at taken
        exact Reader.name_ends named later acceptedLater
      have leads := (Reader.leads_blank boundary isBlank (first.spelling ++ rest)).trans
        (Reader.leads_lexeme taken wellFormed ends nameEnds)
      obtain ⟨later, same⟩ := leads position
      rw [same]
      exact ih (Reader.accept_boundary taken) acceptedLater later

end SpokenForm.TaggedText
