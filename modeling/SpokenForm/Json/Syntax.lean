import SpokenForm.Text

/-! The grammar of JSON. A text becomes a tree whose numbers and strings are kept as they are spelled,
so that a reader decides what they have to be. -/
namespace SpokenForm.Json

/-- A number as spelled: its sign, its digits before the point, those behind it, and the sign and
digits of an exponent. -/
structure NumberSpelling where
  negative : Bool
  whole : Text
  fraction : Text
  exponent? : Option (Bool × Text)
deriving DecidableEq, Repr

/-- A piece of a string: a character, or a unit of UTF-16 in an escape. -/
inductive StringPiece where
  | char (c : Char)
  | unit (value : Nat)
deriving DecidableEq, Repr

/-- A word of the grammar. -/
inductive Lexeme where
  | mark (c : Char)
  | word (spelled : Text)
  | number (spelled : Text)
  | string (pieces : List StringPiece)
deriving DecidableEq, Repr

/-- What the lexer is in the middle of. Spelled characters stand newest first. -/
inductive LexerMode where
  | between
  | inWord (spelled : Text)
  | inNumber (spelled : Text)
  | inString (pieces : List StringPiece)
  | inEscape (pieces : List StringPiece)
  | inUnit (pieces : List StringPiece) (due value : Nat)
deriving DecidableEq, Repr

def isBlank (c : Char) : Bool := c == ' ' || c == '\t' || c == '\n' || c == '\r'

def isNumberChar (c : Char) : Bool :=
  c.isDigit || c == '-' || c == '+' || c == '.' || c == 'e' || c == 'E'

def hexDigit? (c : Char) : Option Nat :=
  if c.isDigit then some (c.toNat - 48)
  else if 'a' ≤ c && c ≤ 'f' then some (c.toNat - 87)
  else if 'A' ≤ c && c ≤ 'F' then some (c.toNat - 55)
  else none

/-- The character that an escape of one letter stands for. -/
def escapedChar? (c : Char) : Option Char :=
  if c = '"' ∨ c = '\\' ∨ c = '/' then some c
  else if c = 'b' then some '\x08'
  else if c = 'f' then some '\x0c'
  else if c = 'n' then some '\n'
  else if c = 'r' then some '\r'
  else if c = 't' then some '\t'
  else none

/-- The lexemes finished by a character that begins something new, and the mode behind it. -/
def stepBetween? (c : Char) : Option (List Lexeme × LexerMode) :=
  if isBlank c then some ([], .between)
  else if c = '{' ∨ c = '}' ∨ c = '[' ∨ c = ']' ∨ c = ',' ∨ c = ':' then some ([.mark c], .between)
  else if c = '"' then some ([], .inString [])
  else if c.isDigit || c = '-' then some ([], .inNumber [c])
  else if c.isLower then some ([], .inWord [c])
  else none

/-- Reads a character: the lexemes that it finishes, and the mode behind it. -/
def lexerStep? (mode : LexerMode) (c : Char) : Option (List Lexeme × LexerMode) :=
  match mode with
  | .between => stepBetween? c
  | .inWord spelled =>
    if c.isLower then some ([], .inWord (c :: spelled))
    else (stepBetween? c).map fun (done, next) => (.word spelled.reverse :: done, next)
  | .inNumber spelled =>
    if isNumberChar c then some ([], .inNumber (c :: spelled))
    else (stepBetween? c).map fun (done, next) => (.number spelled.reverse :: done, next)
  | .inString pieces =>
    if c = '"' then some ([.string pieces.reverse], .between)
    else if c = '\\' then some ([], .inEscape pieces)
    else if c.toNat < 0x20 then none
    else some ([], .inString (.char c :: pieces))
  | .inEscape pieces =>
    if c = 'u' then some ([], .inUnit pieces 4 0)
    else (escapedChar? c).map fun char => ([], .inString (.char char :: pieces))
  | .inUnit pieces due value =>
    (hexDigit? c).map fun digit =>
      if due ≤ 1 then ([], .inString (.unit (16 * value + digit) :: pieces))
      else ([], .inUnit pieces (due - 1) (16 * value + digit))

def lexemesFrom? (mode : LexerMode) : Text → Option (List Lexeme)
  | [] =>
    match mode with
    | .between => some []
    | .inWord spelled => some [.word spelled.reverse]
    | .inNumber spelled => some [.number spelled.reverse]
    | .inString _ | .inEscape _ | .inUnit _ _ _ => none
  | c :: rest => do
    let (done, next) ← lexerStep? mode c
    return done ++ (← lexemesFrom? next rest)

/-- The digits behind an exponent's letter, with its sign. -/
def exponentSpelling? : Text → Option (Bool × Text)
  | '-' :: digits => if !digits.isEmpty && digits.all Char.isDigit then some (true, digits) else none
  | '+' :: digits => if !digits.isEmpty && digits.all Char.isDigit then some (false, digits) else none
  | digits => if !digits.isEmpty && digits.all Char.isDigit then some (false, digits) else none

/-- An exponent at the end of a number, or nothing. -/
def optionalExponent? : Text → Option (Option (Bool × Text))
  | [] => some none
  | c :: rest => if c = 'e' ∨ c = 'E' then (exponentSpelling? rest).map some else none

/-- The parts of a number without its sign. -/
def unsignedSpelling? (negative : Bool) (text : Text) : Option NumberSpelling := do
  let (whole, rest) := text.span Char.isDigit
  if whole.isEmpty || (whole.head? = some '0' && whole.length ≠ 1) then none
  else match rest with
    | '.' :: behind => do
      let (fraction, last) := behind.span Char.isDigit
      if fraction.isEmpty then none
      else return ⟨negative, whole, fraction, ← optionalExponent? last⟩
    | _ => return ⟨negative, whole, [], ← optionalExponent? rest⟩

def numberSpelling? : Text → Option NumberSpelling
  | '-' :: rest => unsignedSpelling? true rest
  | text => unsignedSpelling? false text

/-- A tree as spelled; the members of an object stand as pairs of neighbours. -/
inductive Syntax where
  | null
  | bool (value : Bool)
  | number (spelling : NumberSpelling)
  | string (pieces : List StringPiece)
  | array (items : List Syntax)
  | object (keys : List (List StringPiece)) (values : List Syntax)
deriving BEq, Repr

def leaf? : Lexeme → Option Syntax
  | .mark _ => none
  | .word spelled =>
    if spelled = "null".toList then some .null
    else if spelled = "true".toList then some (.bool true)
    else if spelled = "false".toList then some (.bool false)
    else none
  | .number spelled => (numberSpelling? spelled).map .number
  | .string pieces => some (.string pieces)

mutual

/-- The value at the front of lexemes, and what follows it. -/
def value? : (fuel : Nat) → List Lexeme → Option (Syntax × List Lexeme)
  | 0, _ => none
  | _ + 1, [] => none
  | _ + 1, .mark '[' :: .mark ']' :: rest => some (.array [], rest)
  | _ + 1, .mark '{' :: .mark '}' :: rest => some (.object [] [], rest)
  | fuel + 1, .mark '[' :: rest => (items? fuel rest).map fun (items, last) => (.array items, last)
  | fuel + 1, .mark '{' :: rest =>
    (members? fuel rest).map fun (keys, values, last) => (.object keys values, last)
  | _ + 1, lexeme :: rest => (leaf? lexeme).map fun leaf => (leaf, rest)

/-- The items of an array up to its end, at least one. -/
def items? : (fuel : Nat) → List Lexeme → Option (List Syntax × List Lexeme)
  | 0, _ => none
  | fuel + 1, lexemes => do
    let (item, rest) ← value? fuel lexemes
    match rest with
    | .mark ']' :: last => return ([item], last)
    | .mark ',' :: more => do
      let (items, last) ← items? fuel more
      return (item :: items, last)
    | _ => none

/-- The members of an object up to its end, at least one. -/
def members? : (fuel : Nat) → List Lexeme →
    Option (List (List StringPiece) × List Syntax × List Lexeme)
  | 0, _ => none
  | fuel + 1, .string key :: .mark ':' :: lexemes => do
    let (value, rest) ← value? fuel lexemes
    match rest with
    | .mark '}' :: last => return ([key], [value], last)
    | .mark ',' :: more => do
      let (keys, values, last) ← members? fuel more
      return (key :: keys, value :: values, last)
    | _ => none
  | _ + 1, _ => none

end

/-- The tree that a text spells. Every level of the recursion uses up a lexeme or leads into one that
does. -/
def Syntax.ofText? (text : Text) : Option Syntax := do
  let lexemes ← lexemesFrom? .between text
  let (tree, rest) ← value? (2 * lexemes.length + 2) lexemes
  if rest.isEmpty then some tree else none

end SpokenForm.Json
