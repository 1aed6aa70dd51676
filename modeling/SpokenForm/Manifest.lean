import SpokenForm.Files.Script
import SpokenForm.Json

/-! Files of texts: plain lines, or manifests with a JSON object on every line. -/
namespace SpokenForm

/-- The form that a file of texts is in. -/
inductive InputFormat where
  | plain | manifest
deriving DecidableEq, Repr

def InputFormat.ofPath (path : FilePath) : InputFormat :=
  match FilePath.extension? path with
  | some extension => if extension.map Char.toLower = "json".toList then .manifest else .plain
  | none => .plain

/-- Why texts cannot be read or written. -/
inductive InputError where
  | unreadableLines (path : FilePath)
  | unreadableManifest (path : FilePath)
  | malformedEntry (path : FilePath) (line : Nat)
  | notText (entry : Nat) (field value : Text)
  | missingField (entry : Nat) (field : Text)
  | noDirectory (cause : FileError)
  | notWritten (unfinished : FilePath)
  | notReplaced (path : FilePath)
deriving DecidableEq, Repr

def InputError.message : InputError → String
  | unreadableLines path => "读取输入文件失败: " ++ String.ofList path
  | unreadableManifest path => "读取 manifest 失败: " ++ String.ofList path
  | malformedEntry path line =>
    "解析 manifest 第 " ++ toString line ++ " 行失败: " ++ String.ofList path
  | notText entry field value =>
    "第 " ++ toString entry ++ " 条记录的字段 " ++ String.ofList field ++ " 不是字符串: " ++
      String.ofList value
  | missingField entry field =>
    "第 " ++ toString entry ++ " 条记录缺少字段 " ++ String.ofList field
  | noDirectory cause => cause.message
  | notWritten unfinished => "写入临时文件失败: " ++ String.ofList unfinished
  | notReplaced path => "写入输出文件失败: " ++ String.ofList path

namespace Manifest

/-- Drops all carriage returns at the back. -/
def dropReturns (line : Text) : Text := (line.reverse.dropWhile (· == '\r')).reverse

/-- The lines of a text without their ends. -/
def linesOfText (content : Text) : List Text := content.lines.map dropReturns

/-- The lines of a file. -/
def readLines (path : FilePath) : FileScript (Except InputError (List Text)) := do
  match ← FileScript.readText path with
  | .error _ => return .error (.unreadableLines path)
  | .ok content => return .ok (linesOfText content)

/-- Lines as a text; every line is ended. -/
def textOfLines (lines : List Text) : Text := lines.flatMap (· ++ ['\n'])

/-- Puts a text into a file, which is replaced as a whole. -/
def replace (path : FilePath) (content : Text) : FileScript (Except InputError Unit) := do
  match ← FileScript.makeParent path with
  | .error cause => return .error (.noDirectory cause)
  | .ok _ =>
    let unfinished := FilePath.withExtension path "tmp".toList
    match ← FileScript.writeBytes unfinished (Text.toUtf8 content) with
    | .error _ => return .error (.notWritten unfinished)
    | .ok _ =>
      return (← FileScript.move unfinished path).mapError fun _ => .notReplaced path

def writeLines (path : FilePath) (lines : List Text) : FileScript (Except InputError Unit) :=
  replace path (textOfLines lines)

/-- The entries on lines, the first of which has the given number. Blank lines hold none. -/
def entriesOfLines (path : FilePath) (number : Nat) :
    List Text → Except InputError (List JsonObject)
  | [] => .ok []
  | line :: rest =>
    if line.trim.isEmpty then entriesOfLines path (number + 1) rest
    else match Json.objectOfText? line with
      | none => .error (.malformedEntry path number)
      | some entry => do return entry :: (← entriesOfLines path (number + 1) rest)

def read (path : FilePath) : FileScript (Except InputError (List JsonObject)) := do
  match ← FileScript.readText path with
  | .error _ => return .error (.unreadableManifest path)
  | .ok content => return entriesOfLines path 1 content.lines

/-- Puts entries into a file, one a line. -/
def write (path : FilePath) (entries : List JsonObject) : FileScript (Except InputError Unit) :=
  replace path (textOfLines (entries.map Json.compactObject))

def textOf (number : Nat) (entry : JsonObject) (field : Text) : Except InputError Text :=
  match entry.lookup field with
  | some (.string text) => .ok text
  | some value => .error (.notText number field (Json.compact value))
  | none => .error (.missingField number field)

/-- The texts in a field of entries, the first of which has the given number. -/
def textsFrom (number : Nat) (field : Text) : List JsonObject → Except InputError (List Text)
  | [] => .ok []
  | entry :: rest => do
    let text ← textOf number entry field
    return text :: (← textsFrom (number + 1) field rest)

def texts (entries : List JsonObject) (field : Text) : Except InputError (List Text) :=
  textsFrom 1 field entries

/-- Sets a field of each entry to the text in its place, as far as there are texts. -/
def setField (field : Text) : List JsonObject → List Text → List JsonObject
  | entry :: entries, text :: texts =>
    Json.setMember field (.string text) entry :: setField field entries texts
  | entries, _ => entries

end Manifest

end SpokenForm
