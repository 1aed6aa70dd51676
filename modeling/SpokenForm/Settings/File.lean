import SpokenForm.Files.Script
import SpokenForm.Json
import SpokenForm.Settings

/-! Settings in files: a JSON object with a member for every setting, or an array with the settings in
order. What is not said keeps its standard value. -/
namespace SpokenForm

/-- Why settings cannot be loaded or saved. -/
inductive SettingsFileError where
  | unreadable (path : FilePath)
  | malformed (path : FilePath)
  | unwritable (cause : FileError)
  | notReplaced (path : FilePath)
deriving DecidableEq, Repr

def SettingsFileError.message : SettingsFileError → String
  | unreadable path => "读取配置文件失败: " ++ String.ofList path
  | malformed path => "解析配置文件失败: " ++ String.ofList path
  | unwritable cause => cause.message
  | notReplaced path => "替换配置文件失败: " ++ String.ofList path

namespace Settings

open Json

def textOf? : Syntax → Option Text
  | .string pieces => stringValue? pieces
  | _ => none

def flagOf? : Syntax → Option Bool
  | .bool value => some value
  | _ => none

def countOf? : Syntax → Option Nat
  | .number spelling =>
    match numberValue? spelling with
    | some (.integer value) => if 0 ≤ value then some value.toNat else none
    | _ => none
  | _ => none

def rateOf? : Syntax → Option Float
  | .number spelling =>
    match numberValue? spelling with
    | some (.integer value) => some (Float.ofInt value)
    | some (.float value) => some value
    | _ => none
  | _ => none

/-- A name of a case of letters, alone or as the only member of an object. -/
def inputCaseOf? : Syntax → Option InputCase
  | .object [key] [.null] => (stringValue? key).bind InputCase.ofName?
  | tree => (textOf? tree).bind InputCase.ofName?

/-- Nothing, or something of a kind. -/
def optionalOf? {α : Type} (read? : Syntax → Option α) : Syntax → Option (Option α)
  | .null => some none
  | tree => (read? tree).map some

/-- A setting in files: its name, how it is set and how it is shown. -/
structure Entry where
  name : String
  set? : Settings → Syntax → Option Settings
  shown : Settings → JsonValue

def entry {α : Type} (name : String) (read? : Syntax → Option α)
    (put : Settings → α → Settings) (shown : Settings → JsonValue) : Entry :=
  ⟨name, fun settings tree => (read? tree).map (put settings), shown⟩

def optionalValue {α : Type} (shown : α → JsonValue) (value? : Option α) : JsonValue :=
  (value?.map shown).getD .null

def countValue (count : Nat) : JsonValue := .integer count

/-- All settings, in order. -/
def allEntries : List Entry :=
  [entry "language" textOf? (fun s v => { s with language := v }) fun s => .string s.language,
    entry "input_case" inputCaseOf? (fun s v => { s with inputCase := v })
      fun s => .string s.inputCase.name.toList,
    entry "deterministic" flagOf? (fun s v => { s with deterministic := v })
      fun s => .bool s.deterministic,
    entry "grammar_dir" textOf? (fun s v => { s with grammarDirectory := v })
      fun s => .string s.grammarDirectory,
    entry "cache_dir" (optionalOf? textOf?) (fun s v => { s with cacheDirectory? := v })
      fun s => optionalValue .string s.cacheDirectory?,
    entry "overwrite_cache" flagOf? (fun s v => { s with overwriteCache := v })
      fun s => .bool s.overwriteCache,
    entry "whitelist" (optionalOf? textOf?) (fun s v => { s with whitelist? := v })
      fun s => optionalValue .string s.whitelist?,
    entry "punct_pre_process" flagOf? (fun s v => { s with preProcess := v })
      fun s => .bool s.preProcess,
    entry "punct_post_process" flagOf? (fun s v => { s with postProcess := v })
      fun s => .bool s.postProcess,
    entry "max_number_of_permutations_per_split" countOf?
      (fun s v => { s with serializationLimit := v }) fun s => countValue s.serializationLimit,
    entry "n_tagged" countOf? (fun s v => { s with optionCount := v })
      fun s => countValue s.optionCount,
    entry "cer_threshold" (optionalOf? rateOf?) (fun s v => { s with errorRateLimit? := v })
      fun s => optionalValue .float s.errorRateLimit?,
    entry "n_jobs" countOf? (fun s v => { s with workerCount := v })
      fun s => countValue s.workerCount,
    entry "batch_size" countOf? (fun s v => { s with batchSize := v })
      fun s => countValue s.batchSize,
    entry "text_field" textOf? (fun s v => { s with textField := v })
      fun s => .string s.textField,
    entry "output_field" textOf? (fun s v => { s with outputField := v })
      fun s => .string s.outputField,
    entry "pred_text_field" textOf? (fun s v => { s with predictionField := v })
      fun s => .string s.predictionField]

def entryOf? (name : Text) : Option Entry := allEntries.find? fun entry => entry.name.toList == name

/-- Takes over the members of an object. Unknown names are passed over, and known ones may stand
only once. -/
def takeMembers (settings : Settings) (seen : List Text) :
    List (List StringPiece × Syntax) → Option Settings
  | [] => some settings
  | (key, tree) :: rest => do
    let name ← stringValue? key
    match entryOf? name with
    | none => settings.takeMembers seen rest
    | some entry =>
      if seen.contains name then none
      else (← entry.set? settings tree).takeMembers (name :: seen) rest

/-- Takes over the items of an array, which may not be more than there are settings. -/
def takeItems (settings : Settings) : List Entry → List Syntax → Option Settings
  | _, [] => some settings
  | [], _ :: _ => none
  | entry :: entries, tree :: rest => do
    (← entry.set? settings tree).takeItems entries rest

def ofText? (standard : Settings) (text : Text) : Option Settings := do
  match ← Syntax.ofText? text with
  | .object keys values => standard.takeMembers [] (keys.zip values)
  | .array items => standard.takeItems allEntries items
  | _ => none

def entryLine (settings : Settings) (entry : Entry) : Text :=
  ' ' :: ' ' :: quote entry.name.toList ++ ':' :: ' ' :: compact (entry.shown settings)

/-- Settings as a text, one a line. -/
def toText (settings : Settings) : Text :=
  '{' :: '\n' :: Text.joinBy [',', '\n'] (allEntries.map settings.entryLine) ++ ['\n', '}']

/-- The settings of a file, over standard ones. -/
def load (standard : Settings) (path : FilePath) :
    FileScript (Except SettingsFileError Settings) := do
  match ← FileScript.readText path with
  | .error _ => return .error (.unreadable path)
  | .ok text =>
    match ofText? standard text with
    | some settings => return .ok settings
    | none => return .error (.malformed path)

/-- Puts settings into a file, which is replaced as a whole. -/
def save (settings : Settings) (path : FilePath) : FileScript (Except SettingsFileError Unit) := do
  let prepared ← FileScript.makeParent path
  let unfinished := FilePath.withExtension path "json.tmp".toList
  let written ← FileScript.unlessFailed prepared
    (FileScript.writeBytes unfinished (Text.toUtf8 settings.toText))
  match written with
  | .error cause => return .error (.unwritable cause)
  | .ok _ =>
    return (← FileScript.move unfinished path).mapError fun _ => .notReplaced path

end Settings

end SpokenForm
