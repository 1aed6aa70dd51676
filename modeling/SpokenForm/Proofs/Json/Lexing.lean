import SpokenForm.Proofs.Json.Spelling

/-! Lexemes of printed values. In front of what may follow a value, the text of a word, a number or a
string is read as one lexeme. -/
namespace SpokenForm.Json

/-- Nothing follows, or a mark that may stand behind a value. -/
def Closing (rest : Text) : Prop := ∀ c ∈ rest.head?, c = ',' ∨ c = ']' ∨ c = '}'

/-- In front of what may follow a value, a text is read as lexemes. -/
def Lexes (text : Text) (lexemes : List Lexeme) : Prop :=
  ∀ rest, Closing rest →
    lexemesFrom? .between (text ++ rest) = (lexemesFrom? .between rest).map (lexemes ++ ·)

theorem closing_nil : Closing [] := fun _ first => nomatch first

theorem closing_cons {c : Char} (rest : Text) (mark : c = ',' ∨ c = ']' ∨ c = '}') :
    Closing (c :: rest) := by
  intro other first
  obtain rfl := Option.some.inj first
  exact mark

variable {rest spelled : Text} {c : Char}

theorem lexemesFrom?_cons (mode : LexerMode) (c : Char) (rest : Text) :
    lexemesFrom? mode (c :: rest) = (lexerStep? mode c).bind fun step =>
      (lexemesFrom? step.2 rest).map (step.1 ++ ·) := by
  rw [lexemesFrom?]
  cases lexerStep? mode c with
  | none => rfl
  | some step => exact Option.map_eq_bind.symm

/-! Words and numbers end where something else begins. -/

theorem isLower_eq (c : Char) : c.isLower = (decide (97 ≤ c.val) && decide (c.val ≤ 122)) := rfl

theorem lexemesFrom?_word_end (closing : Closing rest) :
    lexemesFrom? (.inWord spelled) rest =
      (lexemesFrom? .between rest).map (.word spelled.reverse :: ·) := by
  cases rest with
  | nil => rfl
  | cons c rest =>
    rcases closing c rfl with rfl | rfl | rfl <;>
      simp [lexemesFrom?_cons, lexerStep?, stepBetween?, isBlank, isLower_eq, Function.comp_def]

theorem lexemesFrom?_number_end (closing : Closing rest) :
    lexemesFrom? (.inNumber spelled) rest =
      (lexemesFrom? .between rest).map (.number spelled.reverse :: ·) := by
  cases rest with
  | nil => rfl
  | cons c rest =>
    rcases closing c rfl with rfl | rfl | rfl <;>
      simp [lexemesFrom?_cons, lexerStep?, stepBetween?, isBlank, isNumberChar, Char.isDigit,
        Function.comp_def]

theorem lexemesFrom?_word {letters : Text} (each : ∀ c ∈ letters, c.isLower = true)
    (closing : Closing rest) : lexemesFrom? (.inWord spelled) (letters ++ rest) =
      (lexemesFrom? .between rest).map (.word (spelled.reverse ++ letters) :: ·) := by
  induction letters generalizing spelled with
  | nil => simpa using lexemesFrom?_word_end closing
  | cons c letters ih =>
    obtain ⟨here, later⟩ := List.forall_mem_cons.mp each
    rw [List.cons_append, lexemesFrom?_cons, lexerStep?, if_pos here]
    simpa using @ih (c :: spelled) later

theorem lexemesFrom?_number {chars : Text} (each : ∀ c ∈ chars, isNumberChar c = true)
    (closing : Closing rest) : lexemesFrom? (.inNumber spelled) (chars ++ rest) =
      (lexemesFrom? .between rest).map (.number (spelled.reverse ++ chars) :: ·) := by
  induction chars generalizing spelled with
  | nil => simpa using lexemesFrom?_number_end closing
  | cons c chars ih =>
    obtain ⟨here, later⟩ := List.forall_mem_cons.mp each
    rw [List.cons_append, lexemesFrom?_cons, lexerStep?, if_pos here]
    simpa using @ih (c :: spelled) later

theorem isDigit_of_isLower (isLetter : c.isLower = true) : c.isDigit = false := by
  simp only [isLower_eq, Char.isDigit, Bool.and_eq_true, decide_eq_true_eq, Bool.and_eq_false_iff,
    decide_eq_false_iff_not, ge_iff_le, UInt32.le_iff_toNat_le] at isLetter ⊢
  simp at isLetter ⊢
  omega

theorem stepBetween?_eq (begins : c.isLower = true ∨ c.isDigit = true ∨ c = '-') :
    stepBetween? c =
      some ([], if c.isDigit = true ∨ c = '-' then .inNumber [c] else .inWord [c]) := by
  have other (mark : Char) (apart : (mark.isLower || mark.isDigit || mark == '-') = false) : c ≠ mark := by
    rintro rfl
    simp_all
  by_cases number : c.isDigit = true ∨ c = '-' <;>
    simp_all [stepBetween?, isBlank, other ' ' rfl, other '\t' rfl, other '\n' rfl, other '\r' rfl,
      other '\x7b' rfl, other '\x7d' rfl, other '[' rfl, other ']' rfl, other ',' rfl, other ':' rfl,
      other '"' rfl]

/-- A word is a lexeme. -/
theorem lexes_word {letters : Text} (nonempty : letters ≠ []) (each : ∀ c ∈ letters, c.isLower = true) :
    Lexes letters [.word letters] := by
  intro rest closing
  obtain ⟨c, others, rfl⟩ := List.exists_cons_of_ne_nil nonempty
  obtain ⟨isLetter, later⟩ := List.forall_mem_cons.mp each
  have noNumber : ¬ (c.isDigit = true ∨ c = '-') := by
    rintro (isDigit | rfl)
    · exact Bool.false_ne_true ((isDigit_of_isLower isLetter).symm.trans isDigit)
    · cases isLetter
  rw [List.cons_append, lexemesFrom?_cons, lexerStep?, stepBetween?_eq (.inl isLetter), if_neg noNumber,
    Option.bind_some, lexemesFrom?_word later closing, Option.map_map]
  rfl

/-! Numbers. -/

variable {spelling : NumberSpelling}

theorem isNumberChar_of_isDigit (isDigit : c.isDigit = true) : isNumberChar c = true := by
  simp [isNumberChar, isDigit]

theorem isNumberChar_of_mem_text (wellFormed : spelling.WellFormed) :
    ∀ c ∈ spelling.text, isNumberChar c = true := by
  have sign : ∀ c ∈ signText spelling.negative, isNumberChar c = true := by
    cases spelling.negative <;> simp [signText, isNumberChar]
  have fraction : ∀ c ∈ fractionText spelling.fraction, isNumberChar c = true := by
    unfold fractionText
    split
    · simp
    · exact List.forall_mem_cons.mpr
        ⟨rfl, fun c member => isNumberChar_of_isDigit (wellFormed.fraction c member)⟩
  have exponent : ∀ c ∈ exponentText spelling.exponent?, isNumberChar c = true := by
    cases found : spelling.exponent? with
    | none => simp [exponentText]
    | some parts =>
      have digits := (wellFormed.exponent parts found).digits
      refine List.forall_mem_cons.mpr ⟨rfl, List.forall_mem_cons.mpr ⟨?_, fun c member =>
        isNumberChar_of_isDigit (digits c member)⟩⟩
      cases parts.1 <;> rfl
  have whole : ∀ c ∈ spelling.whole, isNumberChar c = true :=
    fun c member => isNumberChar_of_isDigit (wellFormed.whole.digits c member)
  unfold NumberSpelling.text
  simp only [List.forall_mem_append]
  exact ⟨⟨⟨sign, whole⟩, fraction⟩, exponent⟩

theorem exists_text_cons (wellFormed : spelling.WellFormed) :
    ∃ c rest, spelling.text = c :: rest ∧ (c.isDigit = true ∨ c = '-') := by
  obtain ⟨c, others, same⟩ := List.exists_cons_of_ne_nil wellFormed.whole.nonempty
  have isDigit : c.isDigit = true := wellFormed.whole.digits c (by simp [same])
  cases negative : spelling.negative with
  | true => exact ⟨'-', _, by rw [NumberSpelling.text, negative]; rfl, .inr rfl⟩
  | false => exact ⟨c, _, by rw [NumberSpelling.text, negative, same]; rfl, .inl isDigit⟩

/-- A number that is written part by part is a lexeme. -/
theorem lexes_number (wellFormed : spelling.WellFormed) :
    Lexes spelling.text [.number spelling.text] := by
  intro rest closing
  obtain ⟨c, others, same, begins⟩ := exists_text_cons wellFormed
  have each := isNumberChar_of_mem_text wellFormed
  rw [same] at each ⊢
  rw [List.cons_append, lexemesFrom?_cons, lexerStep?, stepBetween?_eq (.inr begins), if_pos begins,
    Option.bind_some, lexemesFrom?_number (List.forall_mem_cons.mp each).2 closing, Option.map_map]
  rfl

/-! Strings. -/

/-- Control characters that have no escape of one letter. -/
def IsControl (c : Char) : Prop :=
  c.toNat < 0x20 ∧ c ≠ '\x08' ∧ c ≠ '\x0c' ∧ c ≠ '\n' ∧ c ≠ '\r' ∧ c ≠ '\t'

instance : DecidablePred IsControl := fun _ => inferInstanceAs (Decidable (_ ∧ _))

/-- The piece of a string that a character is printed as. -/
def pieceOf (c : Char) : StringPiece := if IsControl c then .unit c.toNat else .char c

variable {pieces : List StringPiece}

theorem hexDigit?_digitChar {digit : Nat} (small : digit < 16) :
    hexDigit? digit.digitChar = some digit := by
  revert digit
  decide

theorem hexUnit_eq {value : Nat} (small : value < 0x20) :
    hexUnit value = ['0', '0', (value / 16).digitChar, (value % 16).digitChar] := by
  revert value
  decide

theorem lexemesFrom?_unit {due value digit : Nat} (small : digit < 16) :
    lexemesFrom? (.inUnit pieces due value) (digit.digitChar :: rest) =
      lexemesFrom? (if due ≤ 1 then .inString (.unit (16 * value + digit) :: pieces)
        else .inUnit pieces (due - 1) (16 * value + digit)) rest := by
  rw [lexemesFrom?_cons, lexerStep?, hexDigit?_digitChar small]
  split <;> simp

theorem lexemesFrom?_hexUnit {value : Nat} (small : value < 0x20) :
    lexemesFrom? (.inUnit pieces 4 0) (hexUnit value ++ rest) =
      lexemesFrom? (.inString (.unit value :: pieces)) rest := by
  have zero : '0' = (0 : Nat).digitChar := rfl
  rw [hexUnit_eq small, zero]
  simp only [List.cons_append, List.nil_append]
  rw [lexemesFrom?_unit (by omega), if_neg (by omega), lexemesFrom?_unit (by omega), if_neg (by omega),
    lexemesFrom?_unit (by omega), if_neg (by omega), lexemesFrom?_unit (by omega), if_pos (by omega)]
  congr 4
  omega

theorem lexemesFrom?_escape {letter : Char} (stands : escapedChar? letter = some c) :
    lexemesFrom? (.inString pieces) ('\\' :: letter :: rest) =
      lexemesFrom? (.inString (.char c :: pieces)) rest := by
  have notUnit : letter ≠ 'u' := by
    rintro rfl
    cases stands
  rw [lexemesFrom?_cons, lexerStep?, if_neg (by decide), if_pos rfl, Option.bind_some,
    lexemesFrom?_cons, lexerStep?, if_neg notUnit, stands]
  simp

/-- How a character is printed: with a letter that stands for it, as a unit, or as it is. -/
inductive Escapes (c : Char) : Text → Prop where
  | letter {letter : Char} (stands : escapedChar? letter = some c) (letters : ¬ IsControl c) :
    Escapes c ['\\', letter]
  | unit (control : IsControl c) : Escapes c ('\\' :: 'u' :: hexUnit c.toNat)
  | plain (large : ¬ c.toNat < 0x20) (noQuote : c ≠ '"') (noBackslash : c ≠ '\\') : Escapes c [c]

theorem escapes_escapeChar (c : Char) : Escapes c (escapeChar c) := by
  unfold escapeChar
  split_ifs with special backspace feed line carriage tab small
  · rcases special with rfl | rfl
    · exact .letter rfl (by decide)
    · exact .letter rfl (by decide)
  · exact backspace ▸ .letter rfl (by decide)
  · exact feed ▸ .letter rfl (by decide)
  · exact line ▸ .letter rfl (by decide)
  · exact carriage ▸ .letter rfl (by decide)
  · exact tab ▸ .letter rfl (by decide)
  · exact .unit ⟨small, backspace, feed, line, carriage, tab⟩
  · obtain ⟨noQuote, noBackslash⟩ := not_or.mp special
    exact .plain small noQuote noBackslash

theorem lexemesFrom?_char (c : Char) (pieces : List StringPiece) (rest : Text) :
    lexemesFrom? (.inString pieces) (escapeChar c ++ rest) =
      lexemesFrom? (.inString (pieceOf c :: pieces)) rest := by
  have escapes := escapes_escapeChar c
  generalize escapeChar c = printed at escapes ⊢
  cases escapes with
  | letter stands letters =>
    rw [pieceOf, if_neg letters]
    exact lexemesFrom?_escape stands
  | unit control =>
    rw [pieceOf, if_pos control, List.cons_append, List.cons_append, lexemesFrom?_cons, lexerStep?,
      if_neg (by decide), if_pos rfl, Option.bind_some, lexemesFrom?_cons, lexerStep?, if_pos rfl,
      Option.bind_some, lexemesFrom?_hexUnit control.1]
    simp
  | plain large noQuote noBackslash =>
    have noControl : ¬ IsControl c := fun control => large control.1
    rw [pieceOf, if_neg noControl, List.cons_append, List.nil_append, lexemesFrom?_cons, lexerStep?,
      if_neg noQuote, if_neg noBackslash, if_neg large]
    simp

theorem lexemesFrom?_chars (text : Text) (pieces : List StringPiece) (rest : Text) :
    lexemesFrom? (.inString pieces) (text.flatMap escapeChar ++ '"' :: rest) =
      (lexemesFrom? .between rest).map (.string (pieces.reverse ++ text.map pieceOf) :: ·) := by
  induction text generalizing pieces with
  | nil =>
    rw [List.flatMap_nil, List.nil_append, lexemesFrom?_cons, lexerStep?, if_pos rfl]
    simp
  | cons c text ih =>
    rw [List.flatMap_cons, List.append_assoc, lexemesFrom?_char, ih]
    simp

/-- A string is a lexeme, whatever follows it. -/
theorem lexemesFrom?_quote (text rest : Text) :
    lexemesFrom? .between (quote text ++ rest) =
      (lexemesFrom? .between rest).map (.string (text.map pieceOf) :: ·) := by
  have chars := lexemesFrom?_chars text [] rest
  rw [quote, List.cons_append, List.cons_append, List.append_assoc, lexemesFrom?_cons]
  simpa [lexerStep?, stepBetween?, isBlank] using chars

/-- The pieces of a printed string spell the string. -/
theorem stringValue?_pieces (text : Text) : stringValue? (text.map pieceOf) = some text := by
  induction text with
  | nil => rfl
  | cons c text ih =>
    rw [List.map_cons, pieceOf]
    split
    · rename_i control
      have small : ¬ 0xD800 ≤ c.toNat ∧ ¬ 0xDC00 ≤ c.toNat := by
        have bound := control.1
        omega
      rw [stringValue?.eq_def]
      simp [small, ih]
    · rw [stringValue?, ih]
      rfl

end SpokenForm.Json
