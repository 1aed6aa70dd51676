import SpokenForm.Proofs.Alignment.Position
import SpokenForm.Proofs.Alignment.Region
import SpokenForm.Proofs.Text

/-! Spans partition a sentence: as normalized, as written and as heard, every word stands in exactly one
span, in order. Every stretch that is cut out stands inside its sequence. -/
namespace SpokenForm.Span

open SpokenForm.Alignment

/-! The same spans, cut so that a stretch outside its sequence, or one that ends before it starts, has
no result. -/

/-- The elements between two places, which stand in order and inside. -/
def slice? {α : Type} (items : List α) (start stop : Nat) : Option (List α) :=
  if start ≤ stop ∧ stop ≤ items.length then some (slice items start stop) else none

/-- What was heard between two places that have places among the heard words. -/
def heard? (sentence : Sentence) (start stop : Nat) : Option Text := do
  let first ← sentence.places[start]?
  let last ← sentence.places[stop]?
  return Text.joinSpaced (← slice? sentence.predicted first last)

/-- A stretch that normalization left as it was, unless it is empty. -/
def untouched? (sentence : Sentence) (start stop : Nat) : Option (List Span) :=
  if start < stop then do
    let text := Text.joinSpaced (← slice? sentence.normalized start stop)
    return [⟨text, text, ← heard? sentence start stop, .agrees⟩]
  else return []

def changed? (sentence : Sentence) (region : Region) : Option Span := do
  let words ← slice? sentence.normalized region.aStart region.aEnd
  let predicted ← heard? sentence region.aStart region.aEnd
  let expected := Text.joinSpaced ((words.map preparePrediction).filter (!·.isEmpty))
  let raw ← slice? sentence.raw region.bStart region.bEnd
  return ⟨Text.joinSpaced raw, Text.joinSpaced words, predicted,
    if predicted = expected then .agrees else .differs⟩

def spansFrom? (sentence : Sentence) (start : Nat) : List Region → Option (List Span)
  | [] => untouched? sentence start sentence.normalized.length
  | region :: rest => do
    let before ← untouched? sentence start region.aStart
    let span ← changed? sentence region
    return before ++ span :: (← spansFrom? sentence region.aEnd rest)

def ofSentence? (raw normalized predicted : Text) : Option (List Span) :=
  let rawWords := raw.words
  let words := normalized.words
  let heardWords := (preparePrediction predicted).words
  let places := positionMap (align (words.map preparePrediction) heardWords)
  spansFrom? ⟨rawWords, words, heardWords, places⟩ 0
    (mergeRegions 1 (changeRegions (align words rawWords)))

/-! Stretches follow each other. -/

variable {sentence : Sentence} {start stop : Nat} {regions : List Region}

/-- The words of a sentence have places among the heard words. -/
def Sentence.Placed (sentence : Sentence) : Prop :=
  Places sentence.places sentence.normalized.length sentence.predicted.length

/-- The words of a sentence, as normalized, as written and as heard. -/
structure Sentence.OfWords (sentence : Sentence) : Prop where
  raw : ∀ word ∈ sentence.raw, Text.IsWord word
  normalized : ∀ word ∈ sentence.normalized, Text.IsWord word
  predicted : ∀ word ∈ sentence.predicted, Text.IsWord word

theorem slice?_eq {α : Type} {items : List α} (order : start ≤ stop)
    (inside : stop ≤ items.length) : slice? items start stop = some (slice items start stop) :=
  if_pos ⟨order, inside⟩

theorem heard?_eq (placed : sentence.Placed) (order : start ≤ stop)
    (inside : stop ≤ sentence.normalized.length) :
    heard? sentence start stop = some (heard sentence start stop) := by
  simp only [heard?, placed.getElem? inside, placed.getElem? (Nat.le_trans order inside),
    slice?_eq (placed.getD_le_getD order inside) (placed.getD_le inside), Option.bind_eq_bind,
    Option.bind_some, Option.pure_def]
  rfl

theorem untouched?_eq (placed : sentence.Placed) (inside : stop ≤ sentence.normalized.length) :
    untouched? sentence start stop = some (untouched sentence start stop) := by
  unfold untouched? untouched
  split
  · rename_i less
    have order := Nat.le_of_lt less
    simp [slice?_eq order inside, heard?_eq placed order inside]
  · rfl

theorem spansFrom?_eq (placed : sentence.Placed)
    (leads : Leads sentence.normalized sentence.raw start stop regions) :
    spansFrom? sentence start regions = some (spansFrom sentence start regions) := by
  induction leads with
  | rest equal => exact untouched?_eq placed (Nat.le_refl _)
  | @region a b region later equal forwardA insideA forwardB insideB _ ih =>
    have before : untouched? sentence a region.aStart = some (untouched sentence a region.aStart) :=
      untouched?_eq placed equal.insideA
    have changes : changed? sentence region = some (changed sentence region) := by
      simp only [changed?, slice?_eq forwardA insideA, heard?_eq placed forwardA insideA,
        slice?_eq forwardB insideB, Option.bind_eq_bind, Option.bind_some, Option.pure_def]
      rfl
    simp [spansFrom?, spansFrom, before, changes, ih]

theorem words_joinSpaced_slice {words : List Text} (each : ∀ word ∈ words, Text.IsWord word)
    (start stop : Nat) : (Text.joinSpaced (slice words start stop)).words = slice words start stop :=
  Text.words_joinSpaced_words fun word member => each word (mem_of_mem_slice member)

theorem untouched_raw (start stop : Nat) :
    (untouched sentence start stop).flatMap (·.raw.words) =
      (untouched sentence start stop).flatMap (·.normalized.words) := by
  unfold untouched
  split <;> simp

variable (ofWords : sentence.OfWords)
include ofWords

theorem untouched_normalized (order : start ≤ stop) :
    (untouched sentence start stop).flatMap (·.normalized.words) =
      slice sentence.normalized start stop := by
  unfold untouched
  split
  · simp [words_joinSpaced_slice ofWords.normalized]
  · have same : stop - start = 0 := by omega
    simp [slice, same]

theorem untouched_predicted (order : start ≤ stop) :
    (untouched sentence start stop).flatMap (·.predicted.words) =
      slice sentence.predicted (sentence.places.getD start 0) (sentence.places.getD stop 0) := by
  unfold untouched
  split
  · simp [heard, words_joinSpaced_slice ofWords.predicted]
  · obtain rfl : start = stop := by omega
    simp [slice]

theorem spansFrom_normalized
    (leads : Leads sentence.normalized sentence.raw start stop regions) :
    (spansFrom sentence start regions).flatMap (·.normalized.words) =
      sentence.normalized.drop start := by
  induction leads with
  | rest equal =>
    rw [spansFrom, untouched_normalized ofWords equal.forwardA, slice_to_end]
  | @region a b region later equal forwardA insideA forwardB insideB _ ih =>
    have here : (changed sentence region).normalized.words =
        slice sentence.normalized region.aStart region.aEnd :=
      words_joinSpaced_slice ofWords.normalized _ _
    rw [spansFrom, List.flatMap_append, List.flatMap_cons, ih, here,
      untouched_normalized ofWords equal.forwardA, ← slice_to_end, slice_append forwardA insideA,
      slice_append equal.forwardA equal.insideA, slice_to_end]

theorem spansFrom_raw (leads : Leads sentence.normalized sentence.raw start stop regions) :
    (spansFrom sentence start regions).flatMap (·.raw.words) = sentence.raw.drop stop := by
  induction leads with
  | rest equal =>
    rw [spansFrom, untouched_raw, untouched_normalized ofWords equal.forwardA, equal.equal,
      slice_to_end]
  | @region a b region later equal forwardA insideA forwardB insideB _ ih =>
    have here : (changed sentence region).raw.words =
        slice sentence.raw region.bStart region.bEnd :=
      words_joinSpaced_slice ofWords.raw _ _
    rw [spansFrom, List.flatMap_append, List.flatMap_cons, ih, here, untouched_raw,
      untouched_normalized ofWords equal.forwardA, equal.equal, ← slice_to_end,
      slice_append forwardB insideB, slice_append equal.forwardB equal.insideB, slice_to_end]

theorem spansFrom_predicted (placed : sentence.Placed)
    (leads : Leads sentence.normalized sentence.raw start stop regions) :
    (spansFrom sentence start regions).flatMap (·.predicted.words) =
      sentence.predicted.drop (sentence.places.getD start 0) := by
  induction leads with
  | rest equal =>
    rw [spansFrom, untouched_predicted ofWords equal.forwardA, placed.getD_last,
      slice_to_end]
  | @region a b region later equal forwardA insideA forwardB insideB _ ih =>
    have here : (changed sentence region).predicted.words =
        slice sentence.predicted (sentence.places.getD region.aStart 0)
          (sentence.places.getD region.aEnd 0) :=
      words_joinSpaced_slice ofWords.predicted _ _
    have toStart := placed.getD_le_getD equal.forwardA equal.insideA
    have toEnd := placed.getD_le_getD forwardA insideA
    rw [spansFrom, List.flatMap_append, List.flatMap_cons, ih, here,
      untouched_predicted ofWords equal.forwardA, ← slice_to_end,
      slice_append toEnd (placed.getD_le insideA), slice_append toStart (placed.getD_le equal.insideA),
      slice_to_end]

omit ofWords

/-- The words of three texts, and the places of the normalized ones among the heard ones. -/
def sentenceOf (raw normalized predicted : Text) : Sentence :=
  ⟨raw.words, normalized.words, (preparePrediction predicted).words,
    positionMap (align (normalized.words.map preparePrediction) (preparePrediction predicted).words)⟩

/-- The regions where normalization changed a text, joined where at most one word is between. -/
def regionsOf (raw normalized : Text) : List Region :=
  mergeRegions 1 (changeRegions (align normalized.words raw.words))

theorem ofSentence_eq (raw normalized predicted : Text) :
    ofSentence raw normalized predicted =
      spansFrom (sentenceOf raw normalized predicted) 0 (regionsOf raw normalized) := rfl

theorem ofWords_sentenceOf (raw normalized predicted : Text) :
    (sentenceOf raw normalized predicted).OfWords :=
  ⟨Text.isWord_of_mem_words _, Text.isWord_of_mem_words _, Text.isWord_of_mem_words _⟩

theorem script_keys (normalized predicted : Text) :
    Script (normalized.words.map preparePrediction) (preparePrediction predicted).words
      (align (normalized.words.map preparePrediction) (preparePrediction predicted).words) :=
  script_align _ _

theorem placed_sentenceOf (raw normalized predicted : Text) :
    (sentenceOf raw normalized predicted).Placed := by
  have places := places_positionMap (script_keys normalized predicted)
  rwa [List.length_map] at places

theorem leads_regionsOf (raw normalized : Text) :
    Leads normalized.words raw.words 0 0 (regionsOf raw normalized) :=
  leads_mergeRegions 1 (leads_changeRegions (script_align _ _))

/-- The spans of a sentence partition its words in order, as normalized, as written and, where any word
is normalized, as heard. Every stretch they are cut from stands in order inside its sequence. -/
theorem ofSentence_partitions (raw normalized predicted : Text) (nonempty : normalized.words ≠ []) :
    ofSentence? raw normalized predicted = some (ofSentence raw normalized predicted) ∧
    (ofSentence raw normalized predicted).flatMap (·.normalized.words) = normalized.words ∧
    (ofSentence raw normalized predicted).flatMap (·.raw.words) = raw.words ∧
    (ofSentence raw normalized predicted).flatMap (·.predicted.words) =
      (preparePrediction predicted).words := by
  have placed := placed_sentenceOf raw normalized predicted
  have ofWords := ofWords_sentenceOf raw normalized predicted
  have leads := leads_regionsOf raw normalized
  have keys : normalized.words.map preparePrediction ≠ [] := by simpa using nonempty
  have front : (sentenceOf raw normalized predicted).places.getD 0 0 = 0 := by
    have first := positionsFrom_getElem?_zero (script_keys normalized predicted) keys 0
    rw [List.getD_eq_getElem?_getD]
    exact congrArg (·.getD 0) first
  rw [ofSentence_eq]
  refine ⟨spansFrom?_eq placed leads, spansFrom_normalized ofWords leads, spansFrom_raw ofWords leads,
    ?_⟩
  have heardWords := spansFrom_predicted ofWords placed leads
  rwa [front] at heardWords

/-- A date and a distance, heard with a word in front of both. -/
theorem ofSentence_partitions_distance :
    (ofSentence "On May 3rd I ran 12 km".toList "On May third I ran twelve kilometers".toList
      "Uh, on May third I ran 12 K".toList).flatMap (·.predicted.words) =
        ["uh".toList, "on".toList, "may".toList, "third".toList, "i".toList, "ran".toList, "12".toList,
          "k".toList] :=
  (ofSentence_partitions "On May 3rd I ran 12 km".toList "On May third I ran twelve kilometers".toList
    "Uh, on May third I ran 12 K".toList (by decide)).2.2.2.trans (by decide +kernel)

end SpokenForm.Span
