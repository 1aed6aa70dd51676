import SpokenForm.Token
import SpokenForm.Text.Quoted
import SpokenForm.Unicode.Alphanumeric

/-! Tagged text, read character by character. The reader keeps the open blocks and what it is in
the middle of, so a fault is found at the first character that nothing can repair. -/
namespace SpokenForm

open Unicode

/-- What the grammar would have allowed next. -/
inductive Expectation where
  | openBrace | closeBrace | colonOrBrace | key | value | closingQuote
deriving DecidableEq, Repr

def Expectation.text : Expectation → String
  | openBrace => "'\x7b'"
  | closeBrace => "'\x7d'"
  | colonOrBrace => "':' 或 '\x7b'"
  | key => "字段名"
  | value => "带引号的值或 true/false"
  | closingQuote => "'\"'"

/-- Why a text is no tagged text. Positions count bytes. -/
inductive ParseError where
  | unexpectedEnd (position : Nat) (expected : Expectation)
  | unexpectedChar (position : Nat) (found : Char) (expected : Expectation)
  | emptyKey (position : Nat)
  | invalidValue (position : Nat) (value : Text)
deriving DecidableEq, Repr

def ParseError.message : ParseError → String
  | unexpectedEnd position expected =>
    let wanted := expected.text
    s!"标注文本在位置 {position} 处意外结束，期望 {wanted}"
  | unexpectedChar position found expected =>
    let shown := Text.quotedChar found
    let wanted := expected.text
    s!"标注文本在位置 {position} 处出现意外字符 {shown}，期望 {wanted}"
  | emptyKey position => s!"标注文本在位置 {position} 处缺少字段名"
  | invalidValue position value =>
    let shown := value.quoted
    s!"无法识别的字段值 {shown}（位置 {position}）"

namespace TaggedText

/-- Letters, digits and the underscore spell field names. -/
def isKeyChar (c : Char) : Bool := isAlphanumeric c || c == '_'

/-- A block that is still open: its name, and its fields so far, newest first. -/
structure Frame where
  key : Text
  fields : List Field
deriving BEq, Repr

/-- What the reader is in the middle of. Spelled characters stand newest first. -/
inductive Mode where
  | between
  | inKey (spelled : Text)
  | afterKey (key : Text)
  | beforeValue (key : Text)
  | inQuote (key spelled : Text)
  | inEscape (key spelled : Text)
  | inWord (key : Text) (start : Nat) (spelled : Text)
deriving BEq, Repr

/-- Tokens finished so far, newest first, the open blocks, innermost first, and the mode. -/
structure Reader where
  finished : List Token
  frames : List Frame
  mode : Mode
deriving BEq, Repr

/-- Nothing has been read. -/
def Reader.start : Reader := ⟨[], [], .between⟩

def Reader.addField (reader : Reader) (field : Field) : Reader :=
  match reader.frames with
  | [] => ⟨[field] :: reader.finished, [], .between⟩
  | frame :: outer => ⟨reader.finished, ⟨frame.key, field :: frame.fields⟩ :: outer, .between⟩

def Reader.openBlock (reader : Reader) (key : Text) : Reader :=
  ⟨reader.finished, ⟨key, []⟩ :: reader.frames, .between⟩

/-- A character between two fields or tokens. -/
def Reader.stepBetween (reader : Reader) (position : Nat) (c : Char) :
    Except ParseError Reader :=
  if isWhitespace c then .ok { reader with mode := .between }
  else match reader.frames with
    | frame :: outer =>
      if c = '}' then
        .ok (Reader.addField ⟨reader.finished, outer, .between⟩
          (.nested frame.key frame.fields.reverse))
      else stepName
    | [] => stepName
where
  stepName : Except ParseError Reader :=
    if isKeyChar c then .ok { reader with mode := .inKey [c] }
    else if c = ':' ∨ c = '{' then .error (.emptyKey position)
    else .error (.unexpectedChar position c .key)

/-- A character behind a complete field name. -/
def Reader.stepAfterKey (reader : Reader) (key : Text) (position : Nat) (c : Char) :
    Except ParseError Reader :=
  if isWhitespace c then .ok { reader with mode := .afterKey key }
  else if c = '{' then .ok (reader.openBlock key)
  else match reader.frames with
    | [] => .error (.unexpectedChar position c .openBrace)
    | _ :: _ =>
      if c = ':' then .ok { reader with mode := .beforeValue key }
      else .error (.unexpectedChar position c .colonOrBrace)

def flagOfWord? (word : Text) : Option Bool :=
  if word = "true".toList then some true
  else if word = "false".toList then some false
  else none

def Reader.endWord (reader : Reader) (key : Text) (start : Nat) (spelled : Text) :
    Except ParseError Reader :=
  match flagOfWord? spelled.reverse with
  | some value => .ok (reader.addField (.flag key value))
  | none => .error (.invalidValue start spelled.reverse)

def Reader.step (reader : Reader) (position : Nat) (c : Char) : Except ParseError Reader :=
  match reader.mode with
  | .between => reader.stepBetween position c
  | .inKey spelled =>
    if isKeyChar c then .ok { reader with mode := .inKey (c :: spelled) }
    else reader.stepAfterKey spelled.reverse position c
  | .afterKey key => reader.stepAfterKey key position c
  | .beforeValue key =>
    if isWhitespace c then .ok reader
    else if c = '"' then .ok { reader with mode := .inQuote key [] }
    else if isAlphanumeric c then .ok { reader with mode := .inWord key position [c] }
    else .error (.unexpectedChar position c .value)
  | .inQuote key spelled =>
    if c = '"' then .ok (reader.addField (.leaf key spelled.reverse))
    else if c = '\\' then .ok { reader with mode := .inEscape key (c :: spelled) }
    else .ok { reader with mode := .inQuote key (c :: spelled) }
  | .inEscape key spelled => .ok { reader with mode := .inQuote key (c :: spelled) }
  | .inWord key start spelled =>
    if isAlphanumeric c then .ok { reader with mode := .inWord key start (c :: spelled) }
    else do
      let closed ← reader.endWord key start spelled
      closed.stepBetween position c

/-- Reads a text that starts at a position. -/
def Reader.run (reader : Reader) (position : Nat) : Text → Except ParseError Reader
  | [] => .ok reader
  | c :: rest => do
    let next ← reader.step position c
    next.run (position + c.utf8Size) rest

/-- Between fields the text may end when no block is open. -/
def Reader.finishBetween (reader : Reader) (position : Nat) : Except ParseError (List Token) :=
  if reader.frames.isEmpty then .ok reader.finished.reverse
  else .error (.unexpectedEnd position .closeBrace)

def Reader.finish (reader : Reader) (position : Nat) : Except ParseError (List Token) :=
  match reader.mode with
  | .between => reader.finishBetween position
  | .inKey _ | .afterKey _ =>
    .error (.unexpectedEnd position
      (if reader.frames.isEmpty then .openBrace else .colonOrBrace))
  | .beforeValue _ => .error (.unexpectedEnd position .value)
  | .inQuote _ _ | .inEscape _ _ => .error (.unexpectedEnd position .closingQuote)
  | .inWord key start spelled => do
    let closed ← reader.endWord key start spelled
    closed.finishBetween position

def parse (text : Text) : Except ParseError (List Token) := do
  let reader ← Reader.start.run 0 text
  reader.finish text.utf8Length

end TaggedText

end SpokenForm
