import SpokenForm.Unicode.Whitespace

/-! Texts as lists of characters: words, trimming, joining and lines. -/
namespace SpokenForm

/-- A text is the list of its characters. -/
abbrev Text := List Char

namespace Text

open Unicode

def utf8Length : Text → Nat
  | [] => 0
  | c :: rest => c.utf8Size + utf8Length rest

def trimStart (text : Text) : Text := text.dropWhile isWhitespace

def trimEnd (text : Text) : Text := (trimStart text.reverse).reverse

def trim (text : Text) : Text := trimEnd (trimStart text)

/-- The words of a text, where `word` holds the characters of an unfinished word, last first. -/
def wordsFrom (word : Text) : Text → List Text
  | [] => if word.isEmpty then [] else [word.reverse]
  | c :: rest =>
    if isWhitespace c then
      if word.isEmpty then wordsFrom [] rest else word.reverse :: wordsFrom [] rest
    else wordsFrom (c :: word) rest

/-- The maximal runs of characters that are not white space. -/
def words (text : Text) : List Text := wordsFrom [] text

def joinBy (separator : Text) : List Text → Text
  | [] => []
  | [piece] => piece
  | piece :: rest => piece ++ separator ++ joinBy separator rest

def joinSpaced (pieces : List Text) : Text := joinBy [' '] pieces

/-- Pieces of a text between the occurrences of a character, where `piece` holds the characters of
the unfinished piece, last first. -/
def splitFrom (separator : Char) (piece : Text) : Text → List Text
  | [] => [piece.reverse]
  | c :: rest =>
    if c = separator then piece.reverse :: splitFrom separator [] rest
    else splitFrom separator (c :: piece) rest

/-- Pieces of a text between the occurrences of a character; never none. -/
def split (separator : Char) (text : Text) : List Text := splitFrom separator [] text

/-- Drops one carriage return at the back. -/
def dropReturn (line : Text) : Text :=
  match line.reverse with
  | '\r' :: rest => rest.reverse
  | _ => line

/-- Lines from the pieces between line feeds: every piece but the last was ended, so it may drop a
carriage return; a last piece that is empty is no line. -/
def linesOfPieces : List Text → List Text
  | [] => []
  | [last] => if last.isEmpty then [] else [last]
  | piece :: rest => dropReturn piece :: linesOfPieces rest

/-- Lines end with a line feed, alone or behind a carriage return. -/
def lines (text : Text) : List Text := linesOfPieces (split '\n' text)

end Text

end SpokenForm
