import SpokenForm.Proofs.Selection.Utterance
import SpokenForm.Proofs.Text.Tidy
import SpokenForm.Proofs.Unicode.Lowercase

/-! Prepared utterances. What is prepared has no upper case and no punctuation any more, so that
preparing it again changes nothing; and it is put together from the prepared words. -/
namespace SpokenForm

open Text Unicode

/-- What preparation leaves as it is. -/
structure IsPlain (c : Char) : Prop where
  isLowercase : IsLowercase c
  noPunctuation : isPunctuation c = false

theorem unpunctuated_of_plain {text : Text} (plain : ∀ c ∈ text, IsPlain c) :
    unpunctuated text = text := by
  have lower : lowercase text = text :=
    lowercaseAfter_of_isLowercase [] fun c member => (plain c member).isLowercase
  have unchanged : ∀ c ∈ text, (if isPunctuation c then ' ' else c) = id c := by
    intro c member
    exact if_neg (Bool.eq_false_iff.mp (plain c member).noPunctuation)
  rw [unpunctuated, lower, List.map_congr_left unchanged, List.map_id]

theorem isPlain_space : IsPlain ' ' := ⟨by decide, by decide⟩

theorem plain_unpunctuated (text : Text) : ∀ c ∈ unpunctuated text, IsPlain c := by
  intro c member
  obtain ⟨d, inside, rfl⟩ := List.mem_map.mp member
  split
  · exact isPlain_space
  · rename_i noMark
    exact ⟨isLowercase_lowercaseAfter [] text d inside, Bool.eq_false_iff.mpr noMark⟩

theorem plain_preparePrediction (text : Text) : ∀ c ∈ preparePrediction text, IsPlain c := by
  intro c member
  rw [preparePrediction_eq, joinSpaced_eq_tail] at member
  obtain ⟨word, isOne, among⟩ := List.mem_flatMap.mp (List.mem_of_mem_tail member)
  rcases List.mem_cons.mp among with rfl | inside
  · exact isPlain_space
  · have joined : c ∈ (unpunctuated text).words.flatten := List.mem_flatten.mpr ⟨word, isOne, inside⟩
    rw [flatten_words] at joined
    exact plain_unpunctuated text c (List.mem_filter.mp joined).1

theorem preparePrediction_preparePrediction (text : Text) :
    preparePrediction (preparePrediction text) = preparePrediction text := by
  rw [preparePrediction_eq (preparePrediction text),
    unpunctuated_of_plain (plain_preparePrediction text), ← spokenWords,
    preparePrediction_eq_joinSpaced]

theorem preparePrediction_eq_of_words (text : Text) : preparePrediction text =
    joinSpaced ((text.words.map preparePrediction).filter (!·.isEmpty)) := by
  rw [joinSpaced_preparePrediction, ← spokenWords_eq_flatMap, preparePrediction_eq_joinSpaced]

/-- An utterance is prepared once and for all, and word by word. -/
theorem preparePrediction_word_by_word (text : Text) :
    preparePrediction (preparePrediction text) = preparePrediction text ∧
      preparePrediction text =
        joinSpaced ((text.words.map preparePrediction).filter (!·.isEmpty)) :=
  ⟨preparePrediction_preparePrediction text, preparePrediction_eq_of_words text⟩

end SpokenForm
