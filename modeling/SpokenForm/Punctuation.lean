import SpokenForm.Text

/-! Rules for spaces around punctuation: folding, making room for brackets, joining separate words
again, and following the spacing of another text. -/
namespace SpokenForm.Punctuation

/-- Leaves one space of every run, where `afterSpace` tells that the run has begun. -/
def squeezeFrom (afterSpace : Bool) : Text → Text
  | [] => []
  | c :: rest =>
    if c = ' ' then
      if afterSpace then squeezeFrom true rest else c :: squeezeFrom true rest
    else c :: squeezeFrom false rest

/-- Leaves one space of every run, and no white space at either end. -/
def collapseSpaces (text : Text) : Text := (squeezeFrom false text).trim

/-- Square brackets want room on both sides. -/
def spaced (c : Char) : Text := if c = '[' ∨ c = ']' then [' ', c, ' '] else [c]

/-- Makes room around square brackets, so that what they hold can be normalized. -/
def preProcess (text : Text) : Text := collapseSpaces (text.flatMap spaced)

def closingMarks : Text := ".,!?;:%)]\x7d…»。，！？；：）」".toList

def openingMarks : Text := "([\x7b¿¡«$£€¥（「".toList

/-- An ASCII letter. -/
def isLetter (c : Char) : Bool := c.isUpper || c.isLower

/-- Whether a word is the rest of a contraction: `n't`, or one or two letters behind an
apostrophe. -/
def isContraction : Text → Bool
  | ['n', '\'', 't'] => true
  | ['\'', a] => isLetter a
  | ['\'', a, b] => isLetter a && isLetter b
  | _ => false

/-- How a word stands to its neighbours. -/
inductive Attachment where
  | free | toPrevious | toNext
deriving DecidableEq, Repr

/-- The attachment of a word, where `quoted` tells that a quotation is open: a lone quotation mark
opens one or closes it. -/
def attachment (quoted : Bool) (word : Text) : Attachment :=
  match word with
  | ['"'] => if quoted then .toPrevious else .toNext
  | [c] =>
    if closingMarks.contains c then .toPrevious
    else if openingMarks.contains c then .toNext
    else .free
  | _ => if isContraction word then .toPrevious else .free

/-- Joins words, where `glued` tells that the first of them takes no space in front. -/
def joinFrom (glued quoted : Bool) : List Text → Text
  | [] => []
  | word :: rest =>
    let attached := attachment quoted word
    let joined := joinFrom (attached = .toNext) (if word = ['"'] then !quoted else quoted) rest
    if glued || attached = .toPrevious then word ++ joined else ' ' :: word ++ joined

def detokenize (text : Text) : Text := joinFrom true false text.words

/-- Marks whose spacing can be taken over from another text. -/
def restoredMarks : Text := ".,!?;:\"()[]…".toList

/-- Whether spaces stand next to a mark. -/
structure Spacing where
  before : Bool
  after : Bool
deriving DecidableEq, Repr

/-- The spacing of every occurrence of a mark in a text that `behindSpace` tells the start of. -/
def spacingsFrom (mark : Char) (behindSpace : Bool) : Text → List Spacing
  | [] => []
  | c :: rest =>
    let later := spacingsFrom mark (c = ' ') rest
    if c = mark then ⟨behindSpace, rest.head? = some ' '⟩ :: later else later

/-- The spacing of every occurrence of a mark, in order. -/
def spacings (mark : Char) (text : Text) : List Spacing := spacingsFrom mark false text

/-- Sets or takes away a space in front of a text; nothing is set at the end. -/
def setSpace (wanted : Bool) : Text → Text
  | [] => []
  | c :: rest =>
    if c = ' ' then if wanted then c :: rest else rest
    else if wanted then ' ' :: c :: rest else c :: rest

/-- Gives the occurrences of a mark their spacing, last one first. The characters in front stand last
first, and what is behind them is done. Nothing is set in front of the first character. -/
def respace (mark : Char) (done : Text) : List Spacing → (front : Text) → Text
  | _, [] => done
  | [], c :: front => respace mark (c :: done) [] front
  | spacing :: others, c :: front =>
    if c = mark then
      let behind := c :: setSpace spacing.after done
      match front with
      | [] => behind
      | d :: rest =>
        if d = ' ' then
          if spacing.before then respace mark (d :: behind) others rest
          else respace mark behind others rest
        else if spacing.before then respace mark (' ' :: behind) others (d :: rest)
        else respace mark behind others (d :: rest)
    else respace mark (c :: done) (spacing :: others) front

/-- Takes over the spacing of one mark if both texts have it equally often. -/
def restoreMark (raw text : Text) (mark : Char) : Text :=
  let wanted := spacings mark raw
  if wanted.length = text.count mark then respace mark [] wanted.reverse text.reverse else text

/-- Takes over the spacing of punctuation from the raw text. -/
def restoreSpacing (raw normalized : Text) : Text :=
  restoredMarks.foldl (restoreMark raw) normalized

end SpokenForm.Punctuation
