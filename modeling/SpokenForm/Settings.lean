import SpokenForm.ConfigurationError
import SpokenForm.Grammar

/-! What a user can set. -/
namespace SpokenForm

/-- Settings of a normalization; a worker count of zero stands for one worker a processor. -/
structure Settings where
  language : Text
  inputCase : InputCase
  deterministic : Bool
  grammarDirectory : FilePath
  cacheDirectory? : Option FilePath
  overwriteCache : Bool
  whitelist? : Option FilePath
  preProcess : Bool
  postProcess : Bool
  serializationLimit : Nat
  optionCount : Nat
  errorRateLimit? : Option Float
  workerCount : Nat
  batchSize : Nat
  textField : Text
  outputField : Text
  predictionField : Text
deriving BEq

namespace Settings

/-- The settings of a user who sets nothing. -/
def standard (grammarDirectory : FilePath) : Settings where
  language := "en".toList
  inputCase := .cased
  deterministic := true
  grammarDirectory := grammarDirectory
  cacheDirectory? := none
  overwriteCache := false
  whitelist? := none
  preProcess := false
  postProcess := false
  serializationLimit := 729
  optionCount := 30
  errorRateLimit? := none
  workerCount := 1
  batchSize := 200
  textField := "text".toList
  outputField := "normalized".toList
  predictionField := "pred_text".toList

/-- Limits must leave something to work with. -/
def validate (settings : Settings) : Except ConfigurationError Unit :=
  if settings.serializationLimit = 0 then .error .invalidBudget
  else if settings.batchSize = 0 then .error .invalidBatchSize
  else .ok ()

def grammarKey (settings : Settings) (direction : Direction) : GrammarKey where
  language := settings.language
  direction := direction
  inputCase := settings.inputCase
  deterministic := settings.deterministic
  whitelist? := settings.whitelist?

end Settings

/-- The directory of the program below the one that keeps the data, or the settings, of a user. -/
def programDirectory (directory : FilePath) : FilePath := directory.join "speech-tn".toList

namespace Settings

/-- Where grammars lie when nothing else is said. -/
def standardGrammarDirectory (dataDirectory? : Option FilePath) : FilePath :=
  match dataDirectory? with
  | some directory => (programDirectory directory).join "grammars".toList
  | none => "grammars".toList

def standardPath? (settingsDirectory? : Option FilePath) : Option FilePath :=
  settingsDirectory?.map fun directory => (programDirectory directory).join "config.json".toList

end Settings

end SpokenForm
