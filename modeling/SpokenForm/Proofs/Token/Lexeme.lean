import SpokenForm.Proofs.Unicode.Whitespace
import SpokenForm.Token.Parser

/-! Lexemes of tagged text, and the texts that lay them out. White space may stand between any two
lexemes and at both ends, so every token list has unboundedly many layouts. -/
namespace SpokenForm

open Unicode

/-- The smallest pieces of tagged text. -/
inductive Lexeme where
  | name (key : Text)
  | colon
  | quoted (text : Text)
  | word (value : Bool)
  | opening
  | closing
deriving DecidableEq, Repr

def Lexeme.spelling : Lexeme → Text
  | name key => key
  | colon => [':']
  | quoted text => '"' :: (text ++ ['"'])
  | word value => (if value then "true" else "false").toList
  | opening => ['{']
  | closing => ['}']

namespace TaggedText

/-- What may stand between quotes: a backslash pairs with the character behind it, whichever it is,
and no quote stands unpaired. -/
inductive Quotable : Text → Prop where
  | nil : Quotable []
  | plain {c : Char} {rest : Text} (noQuote : c ≠ '"') (noBackslash : c ≠ '\\')
      (later : Quotable rest) : Quotable (c :: rest)
  | pair {c : Char} {rest : Text} (later : Quotable rest) : Quotable ('\\' :: c :: rest)

/-- A field name is a run of name characters, and not empty. -/
def IsName (key : Text) : Prop := key ≠ [] ∧ ∀ c ∈ key, isKeyChar c = true

/-- White space of any length, also none. -/
def Blank (gap : Text) : Prop := ∀ c ∈ gap, isWhitespace c = true

def StartsWith (isMember : Char → Bool) (text : Text) : Prop :=
  ∃ c rest, text = c :: rest ∧ isMember c = true

@[simp] theorem startsWith_nil {isMember : Char → Bool} : ¬ StartsWith isMember [] := by
  simp [StartsWith]

@[simp] theorem startsWith_cons {isMember : Char → Bool} {c : Char} {rest : Text} :
    StartsWith isMember (c :: rest) ↔ isMember c = true := by
  simp [StartsWith]

end TaggedText

open TaggedText

def Lexeme.WellFormed : Lexeme → Prop
  | name key => IsName key
  | quoted text => Quotable text
  | colon | word _ | opening | closing => True

/-- A truth value ends where no letter or digit goes on; other lexemes end by themselves. -/
def Lexeme.EndsBefore (lexeme : Lexeme) (rest : Text) : Prop :=
  ∀ value, lexeme = word value → ¬ StartsWith isAlphanumeric rest

/-- The lexemes in order, with white space between them and at both ends. -/
inductive LaysOut : List Lexeme → Text → Prop where
  | blank {gap : Text} (isBlank : Blank gap) : LaysOut [] gap
  | lexeme (gap : Text) {rest : Text} {first : Lexeme} {lexemes : List Lexeme} (isBlank : Blank gap)
      (wellFormed : first.WellFormed) (ends : first.EndsBefore rest)
      (later : LaysOut lexemes rest) : LaysOut (first :: lexemes) (gap ++ (first.spelling ++ rest))

mutual

def Field.lexemes : Field → List Lexeme
  | .leaf key text => [.name key, .colon, .quoted text]
  | .flag key value => [.name key, .colon, .word value]
  | .nested key fields => .name key :: .opening :: (Field.lexemesEach fields ++ [.closing])

def Field.lexemesEach : List Field → List Lexeme
  | [] => []
  | field :: rest => field.lexemes ++ Field.lexemesEach rest

end

theorem Field.lexemesEach_eq (fields : List Field) :
    Field.lexemesEach fields = fields.flatMap Field.lexemes := by
  induction fields with
  | nil => rfl
  | cons field rest ih => simp [Field.lexemesEach, ih]

/-- A text lays out tokens when each of them is one block and their lexemes stand in the text. -/
structure TaggedText.Layout (tokens : List Token) (text : Text) : Prop where
  blocks : ∀ token ∈ tokens, ∃ key fields, token = [.nested key fields]
  laidOut : LaysOut (tokens.flatten.flatMap Field.lexemes) text

/-- Induction on fields, with the fields inside a nested one at hand. -/
@[elab_as_elim]
theorem Field.inside_induction {motive : Field → Prop} (leaf : ∀ key text, motive (.leaf key text))
    (flag : ∀ key value, motive (.flag key value))
    (nested : ∀ key fields, (∀ field ∈ fields, motive field) → motive (.nested key fields))
    (field : Field) : motive field :=
  @Field.rec motive (fun fields => ∀ field ∈ fields, motive field) leaf flag nested
    (fun _ absent => nomatch absent)
    (fun _ _ first rest => List.forall_mem_cons.mpr ⟨first, rest⟩) field

/-! Classes of characters that never overlap. -/

theorem TaggedText.not_keyChar_of_whitespace {c : Char} (space : isWhitespace c = true) :
    isKeyChar c = false := by
  have printable := code_of_whitespace space
  have noUnderscore : c ≠ '_' := by
    rintro rfl
    have code : '_'.toNat = 0x5F := rfl
    omega
  simp [isKeyChar, not_alphanumeric_of_whitespace space, noUnderscore]

theorem TaggedText.not_whitespace_of_keyChar {c : Char} (named : isKeyChar c = true) :
    isWhitespace c = false := by
  cases space : isWhitespace c with
  | false => rfl
  | true => simp [not_keyChar_of_whitespace space] at named

end SpokenForm
