import SpokenForm.Count
import SpokenForm.Grammar
import SpokenForm.Numeral

/-! The options of the command. An option is a name behind two dashes; its value follows as the next
argument, or behind an equals sign. -/
namespace SpokenForm.CommandLine

/-- What a call asks for. What is not said is left to the settings. -/
structure Options where
  text? : Option Text
  inputFile? : Option FilePath
  outputFile? : Option FilePath
  language? : Option Text
  inputCase? : Option InputCase
  whitelist? : Option FilePath
  cacheDirectory? : Option FilePath
  grammarDirectory? : Option FilePath
  settingsFile? : Option FilePath
  workerCount? : Option Nat
  batchSize? : Option Nat
  serializationLimit? : Option Nat
  optionCount? : Option Nat
  errorRateLimit? : Option Float
  textField? : Option Text
  outputField? : Option Text
  predictionField? : Option Text
  prediction? : Option Text
  overwriteCache : Bool
  preProcess : Bool
  postProcess : Bool
  verbose : Bool
  inverse : Bool
  nonDeterministic : Bool
  audioBased : Bool

def Options.none : Options :=
  ⟨.none, .none, .none, .none, .none, .none, .none, .none, .none, .none, .none, .none, .none, .none,
    .none, .none, .none, .none, false, false, false, false, false, false, false⟩

/-- What a call comes to: help, the version, or a run. -/
inductive Request where
  | help
  | version
  | run (options : Options)

/-- A call that cannot be understood. -/
inductive UsageError where
  | unknownArgument (argument : Text)
  | missingValue (name : Text)
  | superfluousValue (name : Text)
  | repeatedOption (name : Text)
  | malformedValue (name value : Text)
deriving DecidableEq, Repr

def UsageError.message : UsageError → String
  | unknownArgument argument => "unexpected argument " ++ Text.quoted argument
  | missingValue name => "a value is required for --" ++ String.ofList name
  | superfluousValue name => "no value is expected for --" ++ String.ofList name
  | repeatedOption name => "--" ++ String.ofList name ++ " cannot be used multiple times"
  | malformedValue name value =>
    "invalid value " ++ Text.quoted value ++ " for --" ++ String.ofList name

def text? (value : Text) : Option Text := some value

/-- A path is not empty. -/
def path? (value : Text) : Option FilePath := if value.isEmpty then none else some value

/-- A count of 64 bits. -/
def count? (value : Text) : Option Nat :=
  let digits := match value with
    | '+' :: rest => rest
    | _ => value
  if digits.isEmpty || !digits.all Char.isDigit || Count.largest < Numeral.valueOf digits then none
  else some (Numeral.valueOf digits)

/-- A number without a sign that is spelled as a word. -/
def rateWord? (value : Text) : Option Float :=
  if Numeral.afterWord? "nan".toList value = some [] then some (0 / 0)
  else if Numeral.afterWord? "inf".toList value = some [] then some (1 / 0)
  else if Numeral.afterWord? "infinity".toList value = some [] then some (1 / 0)
  else none

def rate? (value : Text) : Option Float :=
  match Numeral.decimal? value with
  | .ok (some (number, [])) =>
    let magnitude := Float.ofScientific number.digits (number.power < 0) number.power.natAbs
    some (if number.negative then -magnitude else magnitude)
  | .ok (some (_, _ :: _)) => none
  | .error _ => none
  | .ok none =>
    let (negative, word) := Numeral.sign value
    (rateWord? word).map fun magnitude => if negative then -magnitude else magnitude

/-- An option that takes a value, or one that does not. -/
inductive OptionKind where
  | valued (put? : Options → Text → Option Options)
  | plain (put : Options → Options)

def valued {α : Type} (read? : Text → Option α) (put : Options → α → Options) : OptionKind :=
  .valued fun options value => (read? value).map (put options)

def allOptions : List (String × OptionKind) :=
  [("text", valued text? fun o v => { o with text? := some v }),
    ("input_file", valued path? fun o v => { o with inputFile? := some v }),
    ("output_file", valued path? fun o v => { o with outputFile? := some v }),
    ("language", valued text? fun o v => { o with language? := some v }),
    ("input_case", valued InputCase.ofName? fun o v => { o with inputCase? := some v }),
    ("whitelist", valued path? fun o v => { o with whitelist? := some v }),
    ("cache_dir", valued path? fun o v => { o with cacheDirectory? := some v }),
    ("grammar_dir", valued path? fun o v => { o with grammarDirectory? := some v }),
    ("config", valued path? fun o v => { o with settingsFile? := some v }),
    ("n_jobs", valued count? fun o v => { o with workerCount? := some v }),
    ("batch_size", valued count? fun o v => { o with batchSize? := some v }),
    ("max_number_of_permutations_per_split",
      valued count? fun o v => { o with serializationLimit? := some v }),
    ("n_tagged", valued count? fun o v => { o with optionCount? := some v }),
    ("cer_threshold", valued rate? fun o v => { o with errorRateLimit? := some v }),
    ("text_field", valued text? fun o v => { o with textField? := some v }),
    ("output_field", valued text? fun o v => { o with outputField? := some v }),
    ("pred_text_field", valued text? fun o v => { o with predictionField? := some v }),
    ("pred_text", valued text? fun o v => { o with prediction? := some v }),
    ("overwrite_cache", .plain fun o => { o with overwriteCache := true }),
    ("punct_pre_process", .plain fun o => { o with preProcess := true }),
    ("punct_post_process", .plain fun o => { o with postProcess := true }),
    ("verbose", .plain fun o => { o with verbose := true }),
    ("inverse", .plain fun o => { o with inverse := true }),
    ("non_deterministic", .plain fun o => { o with nonDeterministic := true }),
    ("audio_based", .plain fun o => { o with audioBased := true })]

def optionOf? (name : Text) : Option OptionKind :=
  (allOptions.find? fun item => item.1.toList == name).map Prod.snd

/-- The name in an argument, and the value behind an equals sign. -/
def nameAndValue (argument : Text) : Text × Option Text :=
  let (name, rest) := argument.span (· != '=')
  match rest with
  | [] => (name, none)
  | _ :: value => (name, some value)

/-- Whether an argument can only be an option. -/
def isOption : Text → Bool
  | '-' :: _ :: _ => true
  | _ => false

def setValue (options : Options) (name value : Text) (put? : Options → Text → Option Options) :
    Except UsageError Options :=
  match put? options value with
  | some changed => .ok changed
  | none => .error (.malformedValue name value)

/-- Reads arguments from left to right, where the names of options already read are `seen`. -/
def parseFrom (options : Options) (seen : List Text) : List Text → Except UsageError Request
  | [] => .ok (.run options)
  | ('-' :: '-' :: argument) :: rest =>
    if argument.isEmpty then
      match rest with
      | [] => .ok (.run options)
      | extra :: _ => .error (.unknownArgument extra)
    else
      let (name, attached?) := nameAndValue argument
      if name = "help".toList ∨ name = "version".toList then
        if attached?.isSome then .error (.superfluousValue name)
        else .ok (if name = "help".toList then .help else .version)
      else match optionOf? name, attached?, rest with
        | none, _, _ => .error (.unknownArgument name)
        | some (.plain put), none, rest =>
          if seen.contains name then .error (.repeatedOption name)
          else parseFrom (put options) (name :: seen) rest
        | some (.plain _), some _, _ => .error (.superfluousValue name)
        | some (.valued put?), some value, rest =>
          if seen.contains name then .error (.repeatedOption name)
          else match setValue options name value put? with
            | .ok changed => parseFrom changed (name :: seen) rest
            | .error fault => .error fault
        | some (.valued _), none, [] => .error (.missingValue name)
        | some (.valued put?), none, value :: rest =>
          if isOption value then .error (.missingValue name)
          else if seen.contains name then .error (.repeatedOption name)
          else match setValue options name value put? with
            | .ok changed => parseFrom changed (name :: seen) rest
            | .error fault => .error fault
  | ('-' :: 'h' :: _) :: _ => .ok .help
  | ('-' :: 'V' :: _) :: _ => .ok .version
  | argument :: _ => .error (.unknownArgument argument)

def parse (arguments : List Text) : Except UsageError Request := parseFrom .none [] arguments

end SpokenForm.CommandLine
