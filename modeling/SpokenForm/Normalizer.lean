import SpokenForm.Punctuation
import SpokenForm.Registry
import SpokenForm.Token.Chunks
import SpokenForm.Token.Parser
import SpokenForm.Unicode.Composition

/-! Normalization: a grammar tags a text, the tagged text is parsed and cut into chunks, and another
grammar verbalizes each chunk in the first order of fields that it accepts. -/
namespace SpokenForm

/-- Why a text cannot be normalized, or nothing can. -/
inductive NormalizationError where
  | tagging (text : Text) (cause : GrammarError)
  | noTaggingPath (text : Text)
  | parse (tagged : Text) (cause : ParseError)
  | configuration (cause : ConfigurationError)
  | exhausted (chunk : Text)
  | verbalization (serialized : Text) (cause : GrammarError)
  | grammar (cause : GrammarError)
deriving DecidableEq, Repr

namespace NormalizationError

def message : NormalizationError → String
  | tagging text cause => "标注失败（" ++ text.quoted ++ "）: " ++ cause.message
  | noTaggingPath text => "标注语法对 " ++ text.quoted ++ " 没有可接受路径"
  | parse tagged cause => "解析标注文本失败（" ++ tagged.quoted ++ "）: " ++ cause.message
  | configuration cause => cause.message
  | exhausted chunk => "所有排列均无法转写（" ++ chunk.quoted ++ "）"
  | verbalization serialized cause =>
    "转写失败（" ++ serialized.quoted ++ "）: " ++ cause.message
  | grammar cause => cause.message

/-- Whether the text itself can stand in for its normalization: so it is where verbalization failed,
but not where tagging did. -/
def isRecoverable : NormalizationError → Bool
  | parse _ _ | exhausted _ | verbalization _ _ => true
  | tagging _ _ | noTaggingPath _ | configuration _ | grammar _ => false

end NormalizationError

/-- What normalizes texts. -/
structure Normalizer where
  direction : Direction
  language : Text
  grammars : GrammarSet
  budget : Budget
  preProcess : Bool
  postProcess : Bool

/-- A normalized text, and how it came about. -/
structure Normalization where
  text : Text
  changed : Bool
  tagged? : Option Text
  chunkCount : Nat
  fellBack : Bool
deriving DecidableEq, Repr

namespace Normalizer

/-- A normalizer with given grammars. In the inverse direction there is no use for a
post-processor. -/
def ofGrammars (settings : Settings) (direction : Direction) (grammars : GrammarSet) :
    Except ConfigurationError Normalizer := do
  let budget ← Budget.ofLimit settings.serializationLimit
  let postProcessor? := match direction with
    | .normalize => grammars.postProcessor?
    | .inverse => none
  return {
    direction, language := settings.language, grammars := { grammars with postProcessor? }
    budget, preProcess := settings.preProcess, postProcess := settings.postProcess }

/-- A normalizer with the grammars that settings ask for. -/
def build (registry : GrammarRegistry) (settings : Settings) (direction : Direction) :
    FileScript (Except NormalizationError Normalizer) := do
  match settings.validate with
  | .error cause => return .error (.configuration cause)
  | .ok _ =>
    match ← registry.build (settings.grammarKey direction) settings with
    | .error cause => return .error (.grammar cause)
    | .ok grammars =>
      return (ofGrammars settings direction grammars).mapError .configuration

/-- Composes the characters of a text, and leaves one space between its words. -/
def prepare (text : Text) : Text := Text.joinSpaced (Text.words (Unicode.composed text))

def taggerInput (normalizer : Normalizer) (prepared : Text) : Text :=
  if normalizer.preProcess then Punctuation.preProcess prepared else prepared

/-- Tags an input; there is at least one path. -/
def tag (normalizer : Normalizer) (input : Text) (n : Nat) :
    Except NormalizationError (Lattice Weight) :=
  match normalizer.grammars.tagger input n with
  | .error cause => .error (.tagging input cause)
  | .ok lattice => if lattice.isEmpty then .error (.noTaggingPath input) else .ok lattice

/-- The answer to the first of `count` serializations that has one. -/
def firstAnswer? (verbalizer : Grammar Weight) :
    (count : Nat) → Serializations → Except NormalizationError (Option Text)
  | 0, _ => .ok none
  | count + 1, run =>
    match run.next? with
    | none => .ok none
    | some (serialized, later) =>
      match verbalizer serialized 1 with
      | .error cause => .error (.verbalization serialized cause)
      | .ok lattice =>
        match lattice.shortest? with
        | some best => .ok (some best)
        | none => firstAnswer? verbalizer count later

def verbalizeChunk (normalizer : Normalizer) (chunk : List Token) :
    Except NormalizationError Text := do
  let run := Serializations.ofTokens chunk
  match ← firstAnswer? normalizer.grammars.verbalizer run.total run with
  | some text => return text
  | none => .error (.exhausted (Token.serializeAll chunk))

/-- Verbalizes chunks in order, up to the first that cannot be. -/
def verbalizeChunks (normalizer : Normalizer) :
    List (List Token) → Except NormalizationError (List Text)
  | [] => .ok []
  | chunk :: rest => do
    let text ← normalizer.verbalizeChunk chunk
    return text :: (← normalizer.verbalizeChunks rest)

/-- Verbalizes a tagged text; the number of its chunks comes with it. -/
def verbalize (normalizer : Normalizer) (tagged : Text) :
    Except NormalizationError (Text × Nat) := do
  let tokens ← (TaggedText.parse tagged).mapError (.parse tagged)
  if tokens.isEmpty then .error (.exhausted tagged)
  else
    let chunks ← (normalizer.budget.chunks tokens).mapError .configuration
    let texts ← normalizer.verbalizeChunks chunks
    return (Punctuation.collapseSpaces (Text.joinSpaced texts), chunks.length)

/-- What the post-processor makes of a text; the text stays if it fails or has no answer. -/
def refine (normalizer : Normalizer) (text : Text) : Text :=
  match normalizer.grammars.postProcessor? with
  | none => text
  | some grammar =>
    match grammar text 1 with
    | .error _ => text
    | .ok lattice => lattice.shortest?.getD text

def finish (normalizer : Normalizer) (prepared text : Text) : Text :=
  let refined := normalizer.refine text
  if normalizer.postProcess then
    Punctuation.restoreSpacing prepared (Punctuation.detokenize refined)
  else refined

/-- Normalizes a text that has been prepared. -/
def run (normalizer : Normalizer) (text prepared : Text) :
    Except NormalizationError Normalization := do
  let input := normalizer.taggerInput prepared
  let lattice ← normalizer.tag input 1
  match lattice.shortest? with
  | none => .error (.noTaggingPath input)
  | some tagged =>
    let (verbalized, chunkCount) ← normalizer.verbalize tagged
    let finished := normalizer.finish prepared verbalized
    return ⟨finished, finished != text, some tagged, chunkCount, false⟩

def unchanged (text : Text) (fellBack : Bool) : Normalization := ⟨text, false, none, 0, fellBack⟩

/-- Normalizes a text, or fails. A blank text stays as it is. -/
def tryNormalize (normalizer : Normalizer) (text : Text) : Except NormalizationError Text :=
  let prepared := prepare text
  if prepared.isEmpty then .ok text else (normalizer.run text prepared).map Normalization.text

/-- Normalizes a text. Where a failure is recoverable the text stands in for its normalization. -/
def normalizeDetailed (normalizer : Normalizer) (text : Text) :
    Except NormalizationError Normalization :=
  let prepared := prepare text
  if prepared.isEmpty then .ok (unchanged text false)
  else
    match normalizer.run text prepared with
    | .ok result => .ok result
    | .error fault => if fault.isRecoverable then .ok (unchanged text true) else .error fault

/-- The normalized text alone. -/
def normalize (normalizer : Normalizer) (text : Text) : Except NormalizationError Text :=
  (normalizer.normalizeDetailed text).map Normalization.text

/-- The normalizations of tagged texts that can be verbalized, behind those found so far. -/
def optionsOf (normalizer : Normalizer) (prepared : Text) (found : List Text) :
    List Text → Except NormalizationError (List Text)
  | [] => .ok found
  | tagged :: rest =>
    match normalizer.verbalize tagged with
    | .ok (text, _) =>
      let finished := normalizer.finish prepared text
      normalizer.optionsOf prepared
        (if found.contains finished then found else found ++ [finished]) rest
    | .error fault =>
      if fault.isRecoverable then normalizer.optionsOf prepared found rest else .error fault

/-- The distinct normalizations by the best `n` tagged texts, best first. -/
def options (normalizer : Normalizer) (text : Text) (n : Nat) :
    Except NormalizationError (List Text) := do
  let prepared := prepare text
  if prepared.isEmpty then return []
  else
    let count := max n 1
    let lattice ← normalizer.tag (normalizer.taggerInput prepared) count
    normalizer.optionsOf prepared [] (lattice.nBest count)

end Normalizer

end SpokenForm
