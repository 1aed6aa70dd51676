import SpokenForm.Normalizer
import SpokenForm.Similarity
import SpokenForm.Unicode.Lowercase
import SpokenForm.Unicode.Punctuation

/-! Choice among normalizations with the help of a recognized utterance. Where normalization changed a
text, the option most like what was heard is taken. -/
namespace SpokenForm

/-- The words of an utterance alone: in lower case, without punctuation. -/
def preparePrediction (text : Text) : Text :=
  Text.joinSpaced (Text.words
    ((Unicode.lowercase text).map fun c => if Unicode.isPunctuation c then ' ' else c))

/-- Whether what was heard is what normalization says. -/
inductive SpanStatus where
  | agrees | differs
deriving DecidableEq, Repr

/-- A stretch of a sentence: as written, as normalized and as heard. -/
structure Span where
  raw : Text
  normalized : Text
  predicted : Text
  status : SpanStatus
deriving DecidableEq, Repr

namespace Span

/-- The words of a sentence, normalized and heard, and for every place among the normalized words
the number of heard words in front of it. -/
structure Sentence where
  raw : List Text
  normalized : List Text
  predicted : List Text
  places : List Nat

def slice {α : Type} (items : List α) (start stop : Nat) : List α :=
  (items.drop start).take (stop - start)

/-- What was heard between two places among the normalized words. -/
def heard (sentence : Sentence) (start stop : Nat) : Text :=
  Text.joinSpaced (slice sentence.predicted (sentence.places.getD start 0)
    (sentence.places.getD stop 0))

/-- A stretch that normalization left as it was, unless it is empty. -/
def untouched (sentence : Sentence) (start stop : Nat) : List Span :=
  if start < stop then
    let text := Text.joinSpaced (slice sentence.normalized start stop)
    [⟨text, text, heard sentence start stop, .agrees⟩]
  else []

def changed (sentence : Sentence) (region : Region) : Span :=
  let words := slice sentence.normalized region.aStart region.aEnd
  let predicted := heard sentence region.aStart region.aEnd
  let expected := Text.joinSpaced ((words.map preparePrediction).filter (!·.isEmpty))
  ⟨Text.joinSpaced (slice sentence.raw region.bStart region.bEnd), Text.joinSpaced words, predicted,
    if predicted = expected then .agrees else .differs⟩

/-- The stretches from a place on, where regions are changed. -/
def spansFrom (sentence : Sentence) (start : Nat) : List Region → List Span
  | [] => untouched sentence start sentence.normalized.length
  | region :: rest =>
    untouched sentence start region.aStart ++
      changed sentence region :: spansFrom sentence region.aEnd rest

/-- Cuts a sentence into stretches. Changes with at most one equal word between them are one. -/
def ofSentence (raw normalized predicted : Text) : List Span :=
  let rawWords := raw.words
  let words := normalized.words
  let heardWords := (preparePrediction predicted).words
  let places :=
    Alignment.positionMap (Alignment.align (words.map preparePrediction) heardWords)
  spansFrom ⟨rawWords, words, heardWords, places⟩ 0
    (Alignment.mergeRegions 1 (Alignment.changeRegions (Alignment.align words rawWords)))

end Span

/-- How many tagged texts are tried, and from which error rate on none of them will do. -/
structure Selector where
  optionCount : Nat
  errorRateLimit? : Option Float

namespace Selector

def ofSettings (settings : Settings) : Selector := ⟨settings.optionCount, settings.errorRateLimit?⟩

/-- The first of the options most like a text, where one is the best so far. Likeness is compared as exact
fractions; rounded to floating-point numbers of 64 bits these compare alike for texts of fewer than about
2 ^ 26 characters. -/
def mostSimilar (predicted best : Text) : List Text → Text
  | [] => best
  | option :: rest =>
    let better := Fraction.isLess (Similarity.ratio (preparePrediction best) predicted)
      (Similarity.ratio (preparePrediction option) predicted)
    mostSimilar predicted (if better then option else best) rest

/-- The options for a stretch besides its own normalization. -/
def alternatives (selector : Selector) (normalizer : Normalizer) (span : Span) : List Text :=
  match normalizer.options span.raw (max selector.optionCount 1) with
  | .ok found => found.eraseDups.filter (· != span.normalized)
  | .error _ => []

def isTooFar (selector : Selector) (predicted option : Text) : Bool :=
  match selector.errorRateLimit? with
  | none => false
  | some limit =>
    limit < (Similarity.errorRate (preparePrediction option) predicted).toFloat

def choose (selector : Selector) (normalizer : Normalizer) (span : Span) : Text :=
  if span.status = .agrees || span.predicted.isEmpty then span.normalized
  else
    let best := mostSimilar span.predicted span.normalized
      (selector.alternatives normalizer span)
    if selector.isTooFar span.predicted best then span.raw else best

/-- Chooses stretch by stretch, and joins the pieces. -/
def select (selector : Selector) (normalizer : Normalizer) (raw normalized predicted : Text) : Text :=
  Punctuation.collapseSpaces (Text.joinSpaced
    ((Span.ofSentence raw normalized predicted).map (selector.choose normalizer)))

/-- Normalizes a text, and chooses among its normalizations. -/
def normalize (selector : Selector) (normalizer : Normalizer) (text predicted : Text) :
    Except NormalizationError Text := do
  let normalized ← normalizer.normalize text
  return selector.select normalizer text normalized predicted

end Selector

end SpokenForm
