import SpokenForm.Batch
import SpokenForm.CommandLine.Options
import SpokenForm.Manifest
import SpokenForm.Settings.File

/-! What a call of the command does: it settles the settings, gets the grammars, normalizes a text or a
file of texts, and writes or prints the results. -/
namespace SpokenForm.CommandLine

/-- Where the data and the settings of a user are kept, the number of processors, and the number
that tells this process from others. -/
structure Surroundings where
  dataDirectory? : Option FilePath
  settingsDirectory? : Option FilePath
  processors : Nat
  process : Nat

/-- A directory of the user: the one that is set if it is absolute, or else one below the home. -/
def userDirectory? (setting? home? : Option Text) (below : Text) : Option FilePath :=
  match setting?.filter FilePath.isAbsolute with
  | some directory => some directory
  | none => home?.map fun home => FilePath.join home below

/-- Why a call fails. -/
inductive CommandError where
  | settingsFile (cause : SettingsFileError)
  | settings (cause : ConfigurationError)
  | setup (direction : Direction) (language : Text) (cause : NormalizationError)
  | predictionMissing
  | inputMissing
  | manifestNeeded (field : Text)
  | input (cause : InputError)
  | normalization (cause : NormalizationError)
deriving DecidableEq, Repr

def CommandError.message : CommandError → String
  | settingsFile cause => cause.message
  | settings cause => cause.message
  | setup direction language _ =>
    "初始化" ++ direction.displayName ++ "失败 (language=" ++ String.ofList language ++ ")"
  | predictionMissing => "--audio_based 需要同时提供 --pred_text"
  | inputMissing => "需要 --text 或 --input_file"
  | manifestNeeded field =>
    "音频辅助模式需要 .json manifest 输入（包含 " ++ String.ofList field ++ " 字段）"
  | input cause => cause.message
  | normalization cause => cause.message

/-- What lies behind a failure to set up. -/
def CommandError.cause? : CommandError → Option String
  | setup _ _ cause => some cause.message
  | _ => none

/-- Settings with what the options say. Plain options can only switch something on. -/
def Options.apply (options : Options) (settings : Settings) : Settings where
  language := options.language?.getD settings.language
  inputCase := options.inputCase?.getD settings.inputCase
  deterministic := settings.deterministic && !options.nonDeterministic && !options.audioBased
  grammarDirectory := options.grammarDirectory?.getD settings.grammarDirectory
  cacheDirectory? := options.cacheDirectory?.orElse fun _ => settings.cacheDirectory?
  overwriteCache := settings.overwriteCache || options.overwriteCache
  whitelist? := options.whitelist?.orElse fun _ => settings.whitelist?
  preProcess := settings.preProcess || options.preProcess
  postProcess := settings.postProcess || options.postProcess
  serializationLimit := options.serializationLimit?.getD settings.serializationLimit
  optionCount := options.optionCount?.getD settings.optionCount
  errorRateLimit? := options.errorRateLimit?.orElse fun _ => settings.errorRateLimit?
  workerCount := options.workerCount?.getD settings.workerCount
  batchSize := options.batchSize?.getD settings.batchSize
  textField := options.textField?.getD settings.textField
  outputField := options.outputField?.getD settings.outputField
  predictionField := options.predictionField?.getD settings.predictionField

def Options.direction (options : Options) : Direction :=
  if options.inverse then .inverse else .normalize

/-- The settings of a file, if one is named or the standard one is there. -/
def loadSettings (surroundings : Surroundings) (options : Options) :
    FileScript (Except SettingsFileError Settings) := do
  let standard := Settings.standard (Settings.standardGrammarDirectory surroundings.dataDirectory?)
  match options.settingsFile?, Settings.standardPath? surroundings.settingsDirectory? with
  | some path, _ => Settings.load standard path
  | none, none => return .ok standard
  | none, some path =>
    if ← FileScript.hasFile path then Settings.load standard path else return .ok standard

/-- The text itself stands in for a normalization that failed, unless the settings are to blame. -/
def orItself (text : Text) : Except NormalizationError Text → Except NormalizationError Text
  | .ok result => .ok result
  | .error (.configuration cause) => .error (.configuration cause)
  | .error _ => .ok text

/-- Everything that normalizing texts takes, with the turns that workers take at first. -/
structure Runner where
  normalizer : Normalizer
  settings : Settings
  audioBased : Bool
  schedule : List Nat

/-- Normalizes a text, with the help of what was heard if that is asked for. -/
def Runner.normalizeOne (runner : Runner) (text : Text) (prediction? : Option Text) :
    Except NormalizationError Text :=
  orItself text <|
    match prediction?, runner.audioBased with
    | some prediction, true =>
      (Selector.ofSettings runner.settings).normalize runner.normalizer text prediction
    | _, _ => runner.normalizer.normalize text

/-- Normalizes all texts, each with what was heard in its place. -/
def Runner.normalizeAll (runner : Runner) (processors : Nat) (items : List (Text × Option Text)) :
    Except NormalizationError (List Text) :=
  Batch.mapUnder runner.schedule (fun item => runner.normalizeOne item.1 item.2)
    (Batch.resolveWorkers processors runner.settings.workerCount) runner.settings.batchSize items

/-- What is printed when nothing fails. -/
abbrev Printed := Except CommandError (List Text)

/-- Writes a file and prints nothing, or prints lines. -/
def emit (output? : Option FilePath) (lines : List Text)
    (write : FilePath → FileScript (Except InputError Unit)) : FileScript Printed := do
  match output? with
  | none => return .ok lines
  | some path => return (← write path).mapError .input |>.map fun _ => []

def runText (options : Options) (runner : Runner) (text : Text) : FileScript Printed := do
  if options.audioBased && options.prediction?.isNone then return .error .predictionMissing
  else match runner.normalizeOne text options.prediction? with
    | .error cause => return .error (.normalization cause)
    | .ok result =>
      emit options.outputFile? [result] fun path => Manifest.writeLines path [result]

def runLines (surroundings : Surroundings) (options : Options) (runner : Runner) (path : FilePath) :
    FileScript Printed := do
  if options.audioBased then return .error (.manifestNeeded runner.settings.predictionField)
  else match ← Manifest.readLines path with
    | .error cause => return .error (.input cause)
    | .ok lines =>
      match runner.normalizeAll surroundings.processors (lines.map fun line => (line, none)) with
      | .error cause => return .error (.normalization cause)
      | .ok results =>
        emit options.outputFile? results fun path => Manifest.writeLines path results

/-- The texts of entries, each with what was heard if that is asked for. -/
def itemsOf (runner : Runner) (entries : List JsonObject) :
    Except InputError (List (Text × Option Text)) := do
  let texts ← Manifest.texts entries runner.settings.textField
  if runner.audioBased then
    let predictions ← Manifest.texts entries runner.settings.predictionField
    return texts.zip (predictions.map some)
  else return texts.map fun text => (text, none)

def runManifest (surroundings : Surroundings) (options : Options) (runner : Runner)
    (path : FilePath) : FileScript Printed := do
  match ← Manifest.read path with
  | .error cause => return .error (.input cause)
  | .ok entries =>
    match itemsOf runner entries with
    | .error cause => return .error (.input cause)
    | .ok items =>
      match runner.normalizeAll surroundings.processors items with
      | .error cause => return .error (.normalization cause)
      | .ok results =>
        let finished := Manifest.setField runner.settings.outputField entries results
        emit options.outputFile? (finished.map Json.compactObject) fun path =>
          Manifest.write path finished

def runWith (surroundings : Surroundings) (options : Options) (runner : Runner) :
    FileScript Printed :=
  match options.text?, options.inputFile? with
  | some text, _ => runText options runner text
  | none, none => return .error .inputMissing
  | none, some path =>
    match InputFormat.ofPath path with
    | .plain => runLines surroundings options runner path
    | .manifest => runManifest surroundings options runner path

/-- Does what is asked for, where workers take their first turns as a schedule says. -/
def runUnder (schedule : List Nat) (surroundings : Surroundings) (options : Options) :
    FileScript Printed := do
  match ← loadSettings surroundings options with
  | .error cause => return .error (.settingsFile cause)
  | .ok loaded =>
    let settings := options.apply loaded
    match settings.validate with
    | .error cause => return .error (.settings cause)
    | .ok _ =>
      let registry := GrammarRegistry.standard surroundings.process
      match ← Normalizer.build registry settings options.direction with
      | .error cause => return .error (.setup options.direction settings.language cause)
      | .ok normalizer =>
        runWith surroundings options ⟨normalizer, settings, options.audioBased, schedule⟩

/-- Does what is asked for. -/
def run (surroundings : Surroundings) (options : Options) : FileScript Printed :=
  runUnder [] surroundings options

/-- What a call with `--version` prints. -/
def version : String := "speech-tn 0.3.2"

/-- What a call with `--help` prints: how to call, and all options. -/
def help : String :=
  "Usage: speech-tn [OPTIONS]\n\nOptions:\n" ++
    String.join (allOptions.map fun item => "  --" ++ item.1 ++ "\n") ++
    "  -h, --help\n  -V, --version"

end SpokenForm.CommandLine
