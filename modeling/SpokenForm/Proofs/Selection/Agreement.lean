import SpokenForm.Proofs.Alignment.Parts
import SpokenForm.Proofs.Punctuation
import SpokenForm.Proofs.Selection.Partition
import SpokenForm.Proofs.Selection.Utterance

/-! A prediction that says what normalization says leaves the normalized text as it is, as far as the
alignment can tell which words are heard of which. -/
namespace SpokenForm

open SpokenForm.Alignment

namespace Span

variable {sentence : Sentence} {start stop : Nat} {regions : List Region}

theorem forall_mem_spansFrom {P : Span → Prop}
    (onUntouched : ∀ start stop, ∀ span ∈ untouched sentence start stop, P span)
    (onChanged : ∀ region ∈ regions, P (changed sentence region)) (start : Nat) :
    ∀ span ∈ spansFrom sentence start regions, P span := by
  induction regions generalizing start with
  | nil => exact onUntouched start _
  | cons region regions ih =>
    obtain ⟨here, later⟩ := List.forall_mem_cons.mp onChanged
    exact List.forall_mem_append.mpr
      ⟨onUntouched start _, List.forall_mem_cons.mpr ⟨here, ih later region.aEnd⟩⟩

theorem forall_mem_untouched {P : Span → Prop}
    (only : P ⟨Text.joinSpaced (slice sentence.normalized start stop),
      Text.joinSpaced (slice sentence.normalized start stop), heard sentence start stop, .agrees⟩) :
    ∀ span ∈ untouched sentence start stop, P span := by
  unfold untouched
  split
  · simpa using only
  · simp

/-- What is heard of each word of a text. -/
def keysOf (normalized : Text) : List Text := normalized.words.map preparePrediction

theorem partsOf_keysOf (normalized : Text) :
    partsOf Text.words (keysOf normalized) = spokenWords normalized := by
  rw [spokenWords_eq_flatMap, partsOf, keysOf, List.flatMap_map]
  rfl

theorem partsOf_slice_keysOf (normalized : Text) (start stop : Nat) :
    partsOf Text.words (slice (keysOf normalized) start stop) =
      (slice normalized.words start stop).flatMap spokenWords := by
  rw [keysOf, slice_map, partsOf, List.flatMap_map]
  rfl

/-- The alignment can tell which words are heard of which. -/
@[mk_iff]
structure Distinguishable (normalized : Text) : Prop where
  /-- No word that is heard alone is also heard as a part of another. -/
  apart : ∀ key ∈ keysOf normalized, ∀ other ∈ keysOf normalized, other ∈ key.words → key = other
  /-- A word that is heard as several words is only followed by one that is heard as one. -/
  settled : (keysOf normalized).IsChain fun key next => key.words.length ≤ 1 ∨ next.words.length = 1
  /-- Either the table is used, or every word is heard as one. -/
  bounded : ((keysOf normalized).length ≤ tableLimit ∧ (spokenWords normalized).length ≤ tableLimit) ∨
    ∀ key ∈ keysOf normalized, key.words.length = 1

instance (normalized : Text) : Decidable (Distinguishable normalized) :=
  decidable_of_iff _ (distinguishable_iff normalized).symm

namespace Distinguishable

variable {raw normalized predicted : Text}

theorem apart_keys (distinct : Distinguishable normalized) :
    Apart Text.words (keysOf normalized) (keysOf normalized) := by
  intro key inside other otherInside among
  obtain rfl := distinct.apart key inside other otherInside among
  exact ⟨rfl, (Text.isWord_of_mem_words key key among).words_eq⟩

theorem words_eq_of_length {key : Text} (inside : key ∈ keysOf normalized)
    (single : key.words.length = 1) : key.words = [key] := by
  obtain ⟨word, -, rfl⟩ := List.mem_map.mp inside
  exact words_preparePrediction_of_length single

theorem align_keys (distinct : Distinguishable normalized) :
    align (keysOf normalized) (spokenWords normalized) =
      (keysOf normalized).flatMap (partSteps Text.words) := by
  have settled : (keysOf normalized).IsChain (MayFollow Text.words) := by
    refine distinct.settled.imp_of_mem_imp fun key next inside nextInside follows => ?_
    rcases follows with few | single
    · rcases Nat.le_one_iff_eq_zero_or_eq_one.mp few with none | one
      · exact .inl (List.length_eq_zero_iff.mp none)
      · exact .inr (.inl (words_eq_of_length inside one))
    · exact .inr (.inr (words_eq_of_length nextInside single))
  rw [← partsOf_keysOf]
  refine align_partsOf distinct.apart_keys settled ?_
  rw [partsOf_keysOf]
  exact distinct.bounded.imp_right fun single key inside => words_eq_of_length inside (single key inside)

theorem places_eq (distinct : Distinguishable normalized)
    (same : preparePrediction predicted = preparePrediction normalized) {place : Nat}
    (inside : place ≤ normalized.words.length) :
    (sentenceOf raw normalized predicted).places.getD place 0 =
      (partsOf Text.words ((keysOf normalized).take place)).length := by
  have places : (sentenceOf raw normalized predicted).places =
      positionMap ((keysOf normalized).flatMap (partSteps Text.words)) := by
    rw [← distinct.align_keys, sentenceOf, same]
    rfl
  have bound : place ≤ (keysOf normalized).length := by simpa [keysOf] using inside
  rw [places, List.getD_eq_getElem?_getD, positionMap, positionsFrom_partsOf (.inr rfl) bound,
    Option.getD_some, Nat.zero_add]

/-- Between two places is heard what is heard of the words there. -/
theorem heard_eq (distinct : Distinguishable normalized)
    (same : preparePrediction predicted = preparePrediction normalized) (order : start ≤ stop)
    (inside : stop ≤ normalized.words.length) :
    heard (sentenceOf raw normalized predicted) start stop =
      Text.joinSpaced ((slice normalized.words start stop).flatMap spokenWords) := by
  have spoken : (sentenceOf raw normalized predicted).predicted =
      partsOf Text.words (keysOf normalized) := by
    rw [partsOf_keysOf, sentenceOf, same]
    rfl
  rw [heard, distinct.places_eq same inside, distinct.places_eq same (Nat.le_trans order inside),
    spoken, slice_partsOf order, partsOf_slice_keysOf]

theorem changed_agrees (distinct : Distinguishable normalized)
    (same : preparePrediction predicted = preparePrediction normalized) {region : Region}
    (order : region.aStart ≤ region.aEnd) (inside : region.aEnd ≤ normalized.words.length) :
    (changed (sentenceOf raw normalized predicted) region).status = .agrees := by
  have expected := joinSpaced_preparePrediction (slice normalized.words region.aStart region.aEnd)
  rw [← distinct.heard_eq same order inside] at expected
  exact if_pos expected.symm

/-- Regions lie inside the normalized words, so that every stretch agrees. -/
theorem all_agree (distinct : Distinguishable normalized)
    (same : preparePrediction predicted = preparePrediction normalized) :
    ∀ span ∈ ofSentence raw normalized predicted, span.status = .agrees := by
  rw [ofSentence_eq]
  refine forall_mem_spansFrom (fun _ _ => forall_mem_untouched rfl) ?_ 0
  intro region member
  obtain ⟨order, inside⟩ := (leads_regionsOf raw normalized).inside region member
  exact distinct.changed_agrees same order inside

end Distinguishable

end Span

namespace Selector

variable {raw normalized predicted : Text}

theorem onlySpaces_normalized (raw normalized predicted : Text) :
    ∀ span ∈ Span.ofSentence raw normalized predicted, Text.OnlySpaces span.normalized := by
  have joined (start stop : Nat) :
      Text.OnlySpaces (Text.joinSpaced (Span.slice normalized.words start stop)) :=
    Text.onlySpaces_joinSpaced fun word member =>
      (Text.isWord_of_mem_words normalized word (Span.mem_of_mem_slice member)).solid.onlySpaces
  rw [Span.ofSentence_eq]
  exact Span.forall_mem_spansFrom (fun start stop => Span.forall_mem_untouched (joined start stop))
    (fun region _ => joined region.aStart region.aEnd) 0

/-- Where every stretch keeps its normalization, the words stay as they were normalized. -/
theorem select_of_kept (selector : Selector) (normalizer : Normalizer)
    (kept : ∀ span ∈ Span.ofSentence raw normalized predicted,
      selector.choose normalizer span = span.normalized) :
    selector.select normalizer raw normalized predicted = Text.joinSpaced normalized.words := by
  have chosen : (Span.ofSentence raw normalized predicted).map (selector.choose normalizer) =
      (Span.ofSentence raw normalized predicted).map (·.normalized) :=
    List.map_congr_left kept
  have only := Text.onlySpaces_joinSpaced
    (List.forall_mem_map.mpr (onlySpaces_normalized raw normalized predicted))
  have leads := Span.leads_regionsOf raw normalized
  have words : (Span.ofSentence raw normalized predicted).flatMap (·.normalized.words) =
      normalized.words :=
    Span.spansFrom_normalized (Span.ofWords_sentenceOf raw normalized predicted) leads
  rw [select, chosen, Punctuation.collapseSpaces_eq_joinSpaced only, Text.words_joinSpaced,
    List.flatMap_map, words]

theorem select_of_all_agree (selector : Selector) (normalizer : Normalizer)
    (agree : ∀ span ∈ Span.ofSentence raw normalized predicted, span.status = .agrees) :
    selector.select normalizer raw normalized predicted = Text.joinSpaced normalized.words :=
  select_of_kept selector normalizer fun span member => by simp [choose, agree span member]

/-- A prediction that says what normalization says changes nothing, whatever the normalizer and the
settings, as far as the alignment can tell which words are heard of which. -/
theorem agreeing_prediction_changes_nothing (selector : Selector) (normalizer : Normalizer)
    (raw normalized predicted : Text) (distinct : Span.Distinguishable normalized)
    (same : preparePrediction predicted = preparePrediction normalized) :
    (∀ span ∈ Span.ofSentence raw normalized predicted, span.status = .agrees) ∧
      selector.select normalizer raw normalized predicted = Text.joinSpaced normalized.words :=
  ⟨distinct.all_agree same, select_of_all_agree selector normalizer (distinct.all_agree same)⟩

/-- A normalizer whose grammars answer nothing. -/
def muteNormalizer : Normalizer where
  direction := .normalize
  language := "en".toList
  grammars := ⟨fun _ _ => .error .invalidOutput, fun _ _ => .error .invalidOutput, none⟩
  budget := ⟨1, by decide⟩
  preProcess := false
  postProcess := false

/-- A price with a word that is heard as two, and a comma that is not heard. -/
theorem agreeing_prediction_changes_nothing_price :
    (⟨5, some 0.25⟩ : Selector).select muteNormalizer "for $21.50 in cash".toList
      "for twenty-one dollars , fifty cents in cash".toList
      "For twenty one dollars, fifty cents in cash!".toList =
        "for twenty-one dollars , fifty cents in cash".toList := by
  have distinct : Span.Distinguishable "for twenty-one dollars , fifty cents in cash".toList := by
    decide +kernel
  exact (agreeing_prediction_changes_nothing ⟨5, some 0.25⟩ muteNormalizer "for $21.50 in cash".toList
    "for twenty-one dollars , fifty cents in cash".toList
    "For twenty one dollars, fifty cents in cash!".toList distinct (by decide +kernel)).2.trans
    (by decide +kernel)

/-- Where two words next to each other are heard as several each, what is heard of both is counted to
the second. -/
theorem agreeing_prediction_may_differ :
    preparePrediction "E.g., twenty one".toList = preparePrediction "e.g. twenty-one".toList ∧
    Span.ofSentence "e.g. 21".toList "e.g. twenty-one".toList "E.g., twenty one".toList =
      [⟨"e.g.".toList, "e.g.".toList, [], .agrees⟩,
        ⟨"21".toList, "twenty-one".toList, "e g twenty one".toList, .differs⟩] := by
  decide +kernel

end Selector

end SpokenForm
