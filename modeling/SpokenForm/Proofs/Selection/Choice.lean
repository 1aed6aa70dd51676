import Mathlib.Data.List.Forall2
import Mathlib.Data.List.MinMax
import SpokenForm.Proofs.Distinct
import SpokenForm.Proofs.Normalizer.Outcome
import SpokenForm.Proofs.Selection.Agreement
import SpokenForm.Proofs.Similarity
import SpokenForm.Proofs.Unicode.Punctuation

/-! What each stretch of a sentence contributes to the selected text. The scan through its options finds
the first one of the greatest likeness; where nothing is heard, normalization decides alone. -/
namespace SpokenForm

variable {raw normalized predicted : Text}

/-! Nothing is heard of punctuation and white space. -/

theorem preparePrediction_of_silent (silent : ∀ c ∈ predicted, Unicode.IsSilent c) :
    preparePrediction predicted = [] := by
  have blank : Text.Blank (unpunctuated predicted) := by
    intro d member
    obtain ⟨c, among, rfl⟩ := List.mem_map.mp member
    rcases Unicode.lowercaseAfter_of_silent [] silent c among with mark | space
    · simp [mark, Text.isWhitespace_space]
    · split
      · exact Text.isWhitespace_space
      · exact space
  rw [preparePrediction_eq, (Text.words_eq_nil_iff _).mpr blank]
  rfl

/-- Where nothing is heard of a sentence, nothing is heard of its stretches. -/
theorem Span.predicted_of_nothing (nothing : preparePrediction predicted = []) :
    ∀ span ∈ ofSentence raw normalized predicted, span.predicted = [] := by
  have none (start stop : Nat) : heard (sentenceOf raw normalized predicted) start stop = [] := by
    have words : (sentenceOf raw normalized predicted).predicted = [] := by
      rw [sentenceOf, nothing]
      rfl
    simp [heard, slice, words, Text.joinSpaced, Text.joinBy]
  rw [ofSentence_eq]
  exact forall_mem_spansFrom (fun start stop => forall_mem_untouched (none start stop))
    (fun region _ => none region.aStart region.aEnd) 0

namespace Selector

variable {selector : Selector} {normalizer : Normalizer} {span : Span}

/-- How alike what is heard of an option is to what was heard. -/
def likeness (predicted option : Text) : ℚ :=
  (Similarity.ratio (preparePrediction option) predicted).value

/-- What the raw text of a stretch may be normalized to. Nothing, where that fails. -/
def results (selector : Selector) (normalizer : Normalizer) (span : Span) : List Text :=
  (normalizer.options span.raw (max selector.optionCount 1)).toOption.getD []

/-- The options for a stretch: its own normalization first, and none twice. -/
def optionsFor (selector : Selector) (normalizer : Normalizer) (span : Span) : List Text :=
  (span.normalized :: selector.results normalizer span).eraseDups

/-- The error rate of an option is above the limit, if there is one. -/
def TooFar (selector : Selector) (predicted option : Text) : Prop :=
  ∃ limit, selector.errorRateLimit? = some limit ∧
    limit < (Similarity.errorRate (preparePrediction option) predicted).toFloat

/-- The piece that a stretch contributes: its normalization where that was heard or nothing was, or else
the first option most like what was heard, unless that is too far. -/
inductive Contributes (selector : Selector) (normalizer : Normalizer) (span : Span) : Text → Prop where
  | normalized (settled : span.status = .agrees ∨ span.predicted = []) :
      Contributes selector normalizer span span.normalized
  | option {best : Text} (differs : span.status = .differs) (heard : span.predicted ≠ [])
      (chosen : best ∈ (selector.optionsFor normalizer span).argmax (likeness span.predicted))
      (close : ¬ selector.TooFar span.predicted best) : Contributes selector normalizer span best
  | raw {best : Text} (differs : span.status = .differs) (heard : span.predicted ≠ [])
      (chosen : best ∈ (selector.optionsFor normalizer span).argmax (likeness span.predicted))
      (far : selector.TooFar span.predicted best) : Contributes selector normalizer span span.raw

/-! One stretch. -/

theorem isLess_iff_likeness (predicted best option : Text) :
    Fraction.isLess (Similarity.ratio (preparePrediction best) predicted)
        (Similarity.ratio (preparePrediction option) predicted) = true ↔
      likeness predicted best < likeness predicted option :=
  Fraction.isLess_iff (Similarity.denominator_pos _ _) (Similarity.denominator_pos _ _)

/-- The scan keeps the first of the best options. -/
theorem argmax_mostSimilar (predicted best : Text) (options : List Text) :
    (best :: options).argmax (likeness predicted) = some (mostSimilar predicted best options) := by
  induction options generalizing best with
  | nil => rfl
  | cons option rest ih =>
    rw [mostSimilar, ← ih]
    simp only [isLess_iff_likeness, List.argmax, List.foldl_cons, List.argAux]
    split <;> rfl

theorem optionsFor_eq (selector : Selector) (normalizer : Normalizer) (span : Span) :
    selector.optionsFor normalizer span =
      span.normalized :: selector.alternatives normalizer span := by
  rw [optionsFor, List.eraseDups_cons, eraseDups_filter, alternatives, results]
  cases normalizer.options span.raw (max selector.optionCount 1) with
  | ok found => rfl
  | error fault => rfl

theorem isTooFar_iff (selector : Selector) (predicted option : Text) :
    selector.isTooFar predicted option = true ↔ selector.TooFar predicted option := by
  unfold isTooFar TooFar
  cases selector.errorRateLimit? with
  | none => simp
  | some limit => simp

theorem choose_of_settled (settled : span.status = .agrees ∨ span.predicted = []) :
    selector.choose normalizer span = span.normalized :=
  if_pos (by simpa using settled)

theorem choose_of_heard {best : Text} (differs : span.status = .differs) (heard : span.predicted ≠ [])
    (chosen : best ∈ (selector.optionsFor normalizer span).argmax (likeness span.predicted)) :
    selector.choose normalizer span =
      if selector.isTooFar span.predicted best then span.raw else best := by
  rw [optionsFor_eq, argmax_mostSimilar, Option.mem_some_iff] at chosen
  simp [choose, differs, heard, chosen]

/-- A stretch contributes the piece that is chosen for it, and no other. -/
theorem contributes_iff {piece : Text} :
    Contributes selector normalizer span piece ↔ selector.choose normalizer span = piece := by
  constructor
  · intro contributes
    cases contributes with
    | normalized settled => exact choose_of_settled settled
    | option differs heard chosen close =>
      rw [choose_of_heard differs heard chosen, if_neg (mt (isTooFar_iff ..).mp close)]
    | raw differs heard chosen far =>
      rw [choose_of_heard differs heard chosen, if_pos ((isTooFar_iff ..).mpr far)]
  · rintro rfl
    by_cases settled : span.status = .agrees ∨ span.predicted = []
    · rw [choose_of_settled settled]
      exact .normalized settled
    · obtain ⟨disagrees, heard⟩ := not_or.mp settled
      have differs : span.status = .differs := by
        cases status : span.status with
        | agrees => exact absurd status disagrees
        | differs => rfl
      have chosen := argmax_mostSimilar span.predicted span.normalized
        (selector.alternatives normalizer span)
      rw [← optionsFor_eq] at chosen
      rw [choose_of_heard differs heard chosen]
      split
      · rename_i far
        exact .raw differs heard chosen ((isTooFar_iff ..).mp far)
      · rename_i close
        exact .option differs heard chosen (mt (isTooFar_iff ..).mpr close)

/-! A whole sentence. -/

theorem forall₂_contributes_iff {spans : List Span} {pieces : List Text} :
    List.Forall₂ (Contributes selector normalizer) spans pieces ↔
      spans.map (selector.choose normalizer) = pieces := by
  have same : Contributes selector normalizer =
      fun span piece => selector.choose normalizer span = piece := by
    funext span piece
    exact propext contributes_iff
  rw [same, ← List.forall₂_map_left_iff, List.forall₂_eq_eq_eq]

theorem select_of_silent (selector : Selector) (normalizer : Normalizer)
    (silent : ∀ c ∈ predicted, Unicode.IsSilent c) :
    selector.select normalizer raw normalized predicted = Text.joinSpaced normalized.words :=
  select_of_kept selector normalizer fun span member =>
    choose_of_settled (.inr (Span.predicted_of_nothing (preparePrediction_of_silent silent) span member))

/-- The selected text is what the stretches of a sentence contribute in order, joined by spaces. The
selection itself never fails. A prediction of which nothing is heard leaves the words as they were
normalized. -/
theorem select_joins_contributions (selector : Selector) (normalizer : Normalizer)
    (raw normalized predicted : Text) :
    (∀ text, selector.select normalizer raw normalized predicted = text ↔
      ∃ pieces, List.Forall₂ (Contributes selector normalizer)
          (Span.ofSentence raw normalized predicted) pieces ∧
        Punctuation.collapseSpaces (Text.joinSpaced pieces) = text) ∧
    selector.normalize normalizer raw predicted =
      (normalizer.normalize raw).map (selector.select normalizer raw · predicted) ∧
    ((∀ c ∈ predicted, Unicode.isPunctuation c = true ∨ Unicode.isWhitespace c = true) →
      selector.select normalizer raw normalized predicted = Text.joinSpaced normalized.words) := by
  refine ⟨fun text => ?_, ?_, select_of_silent selector normalizer⟩
  · simp only [forall₂_contributes_iff, exists_eq_left', select]
  · rw [Selector.normalize]
    cases normalizer.normalize raw <;> rfl

/-- Of the two normalizations of a number the second is heard. Where only marks are heard, the first one
stays. -/
theorem select_joins_contributions_page :
    (⟨5, none⟩ : Selector).select Normalizer.five "page 5".toList "page five".toList
      "Page V!".toList = "page V".toList ∧
    (⟨5, none⟩ : Selector).select Normalizer.five "page 5".toList "page five".toList
      "?! …".toList = "page five".toList := by
  let selector : Selector := ⟨5, none⟩
  have page : Selector.Contributes selector Normalizer.five
      ⟨"page".toList, "page".toList, "page".toList, .agrees⟩ "page".toList := .normalized (.inl rfl)
  have number : Selector.Contributes selector Normalizer.five
      ⟨"5".toList, "five".toList, "v".toList, .differs⟩ "V".toList :=
    .option rfl (by decide) (by decide +kernel) (by simp [selector, TooFar])
  have spans : Span.ofSentence "page 5".toList "page five".toList "Page V!".toList =
      [⟨"page".toList, "page".toList, "page".toList, .agrees⟩,
        ⟨"5".toList, "five".toList, "v".toList, .differs⟩] := by decide +kernel
  obtain ⟨joined, -⟩ := select_joins_contributions selector Normalizer.five "page 5".toList
    "page five".toList "Page V!".toList
  obtain ⟨-, -, silent⟩ := select_joins_contributions selector Normalizer.five "page 5".toList
    "page five".toList "?! …".toList
  have marks : "?! …".toList.all (fun c => Unicode.isPunctuation c || Unicode.isWhitespace c) = true := by
    decide
  refine ⟨(joined _).mpr ⟨["page".toList, "V".toList], ?_, by decide⟩, ?_⟩
  · rw [spans]
    exact .cons page (.cons number .nil)
  · exact silent (by simpa only [List.all_eq_true, Bool.or_eq_true] using marks)

end Selector

end SpokenForm
