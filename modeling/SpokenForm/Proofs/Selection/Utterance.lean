import SpokenForm.Proofs.Text
import SpokenForm.Proofs.Unicode.Whitespace
import SpokenForm.Selection

/-! What is heard of a text: word by word, as white space keeps words apart in every step of the
preparation. A word may be heard as several words, or not at all. -/
namespace SpokenForm

open Text Unicode

def spokenWords (text : Text) : List Text := (preparePrediction text).words

/-- A text in lower case, with spaces in place of its punctuation. -/
def unpunctuated (text : Text) : Text :=
  (lowercase text).map fun c => if isPunctuation c then ' ' else c

theorem preparePrediction_eq (text : Text) :
    preparePrediction text = joinSpaced (unpunctuated text).words := rfl

theorem spokenWords_eq (text : Text) : spokenWords text = (unpunctuated text).words :=
  words_joinSpaced_words (isWord_of_mem_words _)

theorem preparePrediction_eq_joinSpaced (text : Text) :
    preparePrediction text = joinSpaced (spokenWords text) := by
  rw [spokenWords_eq, preparePrediction_eq]

theorem spokenWords_append_blank {c : Char} (space : isWhitespace c = true) (front rest : Text) :
    spokenWords (front ++ c :: rest) = spokenWords front ++ spokenWords rest := by
  have between : isWhitespace (if isPunctuation c then ' ' else c) = true := by
    split
    · exact isWhitespace_space
    · exact space
  simp only [spokenWords_eq, unpunctuated, lowercase_append_blank space, List.map_append, List.map_cons,
    words_append_blank _ between]

theorem flatMap_spokenWords_of_solid {text : Text} (solid : Solid text) :
    text.words.flatMap spokenWords = spokenWords text := by
  rw [words_of_solid solid]
  split
  · rename_i empty
    rw [empty]
    rfl
  · rw [List.flatMap_singleton]

theorem spokenWords_eq_flatMap (text : Text) : spokenWords text = text.words.flatMap spokenWords := by
  induction text using blank_induction with
  | solid text solid => exact (flatMap_spokenWords_of_solid solid).symm
  | blank front c rest solid space ih =>
    rw [spokenWords_append_blank space, words_append_blank front space, List.flatMap_append, ← ih,
      flatMap_spokenWords_of_solid solid]

theorem isWord_of_mem_spokenWords (text : Text) : ∀ word ∈ spokenWords text, IsWord word :=
  isWord_of_mem_words _

theorem joinSpaced_preparePrediction (words : List Text) :
    joinSpaced ((words.map preparePrediction).filter (!·.isEmpty)) =
      joinSpaced (words.flatMap spokenWords) := by
  have blocks : words.map preparePrediction = (words.map spokenWords).map joinSpaced := by
    simp [preparePrediction_eq_joinSpaced]
  have each : ∀ block ∈ words.map spokenWords, ∀ piece ∈ block, piece ≠ [] := by
    simp only [List.forall_mem_map]
    exact fun word _ piece member => (isWord_of_mem_spokenWords word piece member).nonempty
  rw [blocks, joinSpaced_flatten each, List.flatMap_def]

/-- What is heard as one word is that word. -/
theorem words_preparePrediction_of_length {text : Text} (single : (spokenWords text).length = 1) :
    (preparePrediction text).words = [preparePrediction text] := by
  obtain ⟨word, alone⟩ := List.length_eq_one_iff.mp single
  have same : preparePrediction text = word := by
    rw [preparePrediction_eq_joinSpaced, alone]
    rfl
  rw [same]
  exact same ▸ alone

end SpokenForm
