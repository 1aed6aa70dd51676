import SpokenForm.Proofs.Text.Trimming
import SpokenForm.Punctuation

/-! Collapsed spaces: the words of a text that has no other white space, with one space between them. -/
namespace SpokenForm.Punctuation

open Text Unicode

theorem squeezeFrom_cons (afterSpace : Bool) (c : Char) (text : Text) :
    squeezeFrom afterSpace (c :: text) =
      (if c = ' ' ∧ afterSpace = true then [] else [c]) ++ squeezeFrom (c = ' ') text := by
  by_cases space : c = ' '
  · cases afterSpace <;> simp [squeezeFrom, space]
  · simp [squeezeFrom, space]

/-- At the front of a text it does not matter whether a run has begun. -/
theorem trim_squeezeFrom (afterSpace : Bool) (text : Text) :
    trim (squeezeFrom afterSpace text) = collapseSpaces text := by
  cases afterSpace with
  | false => rfl
  | true =>
    cases text with
    | nil => rfl
    | cons c text =>
      rw [collapseSpaces, squeezeFrom_cons, squeezeFrom_cons]
      by_cases space : c = ' '
      · simp [space, trim_cons_of_blank isWhitespace_space]
      · simp [space]

theorem squeezeFrom_append_solid {front : Text} (solid : Solid front) (nonempty : front ≠ [])
    (afterSpace : Bool) (rest : Text) :
    squeezeFrom afterSpace (front ++ rest) = front ++ squeezeFrom false rest := by
  induction front generalizing afterSpace with
  | nil => exact absurd rfl nonempty
  | cons c front ih =>
    obtain ⟨here, later⟩ := List.forall_mem_cons.mp solid
    have noSpace : c ≠ ' ' := by
      rintro rfl
      simp [isWhitespace_space] at here
    rw [List.cons_append, squeezeFrom, if_neg noSpace, List.cons_append]
    cases front with
    | nil => rfl
    | cons d front => rw [ih later (List.cons_ne_nil d front)]

/-- Behind the words there may be the first of the spaces that end a text. -/
theorem squeezeFrom_eq_joinSpaced {text : Text} (only : OnlySpaces text) :
    ∃ back : Text, (∀ c ∈ back, isWhitespace c = true) ∧
      squeezeFrom true text = joinSpaced text.words ++ back := by
  induction text using blank_induction with
  | solid text solid =>
    refine ⟨[], by simp, ?_⟩
    rw [words_of_solid solid]
    split
    · rename_i empty
      rw [empty]
      rfl
    · rename_i nonempty
      have same := squeezeFrom_append_solid solid nonempty true []
      simpa [squeezeFrom, joinSpaced, joinBy] using same
  | blank front c rest solid space ih =>
    obtain ⟨-, behind⟩ := List.forall_mem_append.mp only
    obtain ⟨isSpace, onlyRest⟩ := List.forall_mem_cons.mp behind
    obtain rfl := isSpace space
    obtain ⟨back, blank, same⟩ := ih onlyRest
    rw [words_append_blank front space, words_of_solid solid]
    by_cases empty : front = []
    · refine ⟨back, blank, ?_⟩
      simpa [empty, squeezeFrom] using same
    · -- The space in front of the next word separates it; without one it ends the text.
      rw [squeezeFrom_append_solid solid empty, if_neg empty, List.singleton_append]
      cases found : rest.words with
      | nil =>
        refine ⟨' ' :: back, List.forall_mem_cons.mpr ⟨isWhitespace_space, blank⟩, ?_⟩
        simp [squeezeFrom, same, found, joinSpaced, joinBy]
      | cons word words =>
        refine ⟨back, blank, ?_⟩
        simp [squeezeFrom, same, found, joinSpaced, joinBy]

theorem collapseSpaces_eq_joinSpaced {text : Text} (only : OnlySpaces text) :
    collapseSpaces text = joinSpaced text.words := by
  obtain ⟨back, blankBack, same⟩ := squeezeFrom_eq_joinSpaced only
  have each := isWord_of_mem_words text
  rw [← trim_squeezeFrom true, same]
  exact @trim_between [] _ back Blank.nil blankBack (head?_joinSpaced each) (getLast?_joinSpaced each)

end SpokenForm.Punctuation
