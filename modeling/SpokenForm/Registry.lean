import SpokenForm.GrammarCache
import SpokenForm.Settings
import SpokenForm.Whitelist

/-! The languages that grammars can be had for, each with a way to get them. -/
namespace SpokenForm

abbrev GrammarFactory := GrammarKey → Settings → FileScript (Except GrammarError GrammarSet)

/-- Factories by language, at most one for each. -/
structure GrammarRegistry where
  factories : List (Text × GrammarFactory)

namespace GrammarRegistry

def empty : GrammarRegistry := ⟨[]⟩

/-- Puts a factory in the place of the one that a language had. -/
def register (registry : GrammarRegistry) (language : Text) (factory : GrammarFactory) :
    GrammarRegistry :=
  ⟨(language, factory) :: registry.factories.filter fun item => item.1 != language⟩

def supports (registry : GrammarRegistry) (language : Text) : Bool :=
  (registry.factories.lookup language).isSome

/-- Texts rank by their first different characters. -/
def precedes : Text → Text → Bool
  | [], _ => true
  | _ :: _, [] => false
  | a :: as, b :: bs => a < b || (a == b && precedes as bs)

def languages (registry : GrammarRegistry) : List Text :=
  (registry.factories.map Prod.fst).mergeSort precedes

def description (registry : GrammarRegistry) : String :=
  "GrammarRegistry \x7b languages: [" ++
    String.intercalate ", " (registry.languages.map Text.quoted) ++ "] \x7d"

def loadWhitelist (path : FilePath) (direction : Direction) :
    FileScript (Except GrammarError Whitelist) := do
  match ← FileScript.readText path with
  | .error cause => return .error (.io path cause)
  | .ok content =>
    match Whitelist.parse content direction with
    | .ok list => return .ok list
    | .error line => return .error (.invalidWhitelist path line)

/-- The grammars for a key. If it names a whitelist, that stands in front of the tagger. -/
def build (registry : GrammarRegistry) (key : GrammarKey) (settings : Settings) :
    FileScript (Except GrammarError GrammarSet) := do
  match registry.factories.lookup key.language with
  | none => return .error (.unsupportedLanguage key.language)
  | some factory =>
    match ← factory key settings, key.whitelist? with
    | .error fault, _ => return .error fault
    | .ok grammars, none => return .ok grammars
    | .ok grammars, some path =>
      match ← loadWhitelist path key.direction with
      | .error fault => return .error fault
      | .ok list => return .ok { grammars with tagger := list.guard grammars.tagger }

/-- The grammar of a stage that cannot be done without. -/
def loadRequired (cache : GrammarCache) (key : GrammarKey) (stage : Stage) :
    FileScript (Except GrammarError (Transducer Weight)) := do
  match ← cache.load key stage with
  | .error fault => return .error fault
  | .ok (some machine) => return .ok machine
  | .ok none => return .error (.missingGrammar (cache.expectedSource key stage))

/-- The post-processor of a normalization, if there is one. -/
def loadPostProcessor (cache : GrammarCache) (key : GrammarKey) :
    FileScript (Except GrammarError (Option (Transducer Weight))) :=
  match key.direction with
  | .normalize => cache.load key .postProcess
  | .inverse => return .ok none

/-- Gets transducers from files. The writer's number tells this process from others. -/
def transducerFactory (writer : Nat) : GrammarFactory := fun key settings => do
  let cache : GrammarCache :=
    ⟨settings.grammarDirectory, settings.cacheDirectory?, settings.overwriteCache, writer⟩
  match ← loadRequired cache key .tokenize with
  | .error fault => return .error fault
  | .ok tagger =>
    match ← loadRequired cache key .verbalize with
    | .error fault => return .error fault
    | .ok verbalizer =>
      match ← loadPostProcessor cache key with
      | .error fault => return .error fault
      | .ok postProcessor? =>
        return .ok ⟨tagger.apply, verbalizer.apply, postProcessor?.map Transducer.apply⟩

def transducerLanguages : List Text :=
  ["ar", "de", "en", "es", "fr", "hi", "hu", "hy", "it", "ja", "pt", "ru", "sv", "vi", "zh"].map
    String.toList

/-- Gets transducers from files for every language that they are made for. -/
def standard (writer : Nat) : GrammarRegistry :=
  ⟨transducerLanguages.map fun language => (language, transducerFactory writer)⟩

end GrammarRegistry

end SpokenForm
