import SpokenForm.Text.Utf8

/-! Joined texts, and the words of texts: white space separates words, and joining separates them by
spaces again. -/
namespace SpokenForm.Text

open Unicode

theorem joinSpaced_cons (piece : Text) (pieces : List Text) :
    joinSpaced (piece :: pieces) = piece ++ pieces.flatMap (' ' :: ·) := by
  induction pieces generalizing piece with
  | nil => simp [joinSpaced, joinBy]
  | cons next pieces ih =>
    have later : joinBy [' '] (next :: pieces) = next ++ pieces.flatMap (' ' :: ·) := ih next
    simp [joinSpaced, joinBy, later]

theorem spaced_joinSpaced {pieces : List Text} (nonempty : pieces ≠ []) :
    ' ' :: joinSpaced pieces = pieces.flatMap (' ' :: ·) := by
  cases pieces with
  | nil => exact absurd rfl nonempty
  | cons piece pieces => simp [joinSpaced_cons]

theorem joinSpaced_eq_tail (pieces : List Text) :
    joinSpaced pieces = (pieces.flatMap (' ' :: ·)).tail := by
  cases pieces with
  | nil => rfl
  | cons piece pieces => simp [joinSpaced_cons]

/-- No character of the text is white space. -/
def Solid (text : Text) : Prop := ∀ c ∈ text, isWhitespace c = false

/-- A non-empty run of characters that are not white space. -/
structure IsWord (word : Text) : Prop where
  nonempty : word ≠ []
  solid : Solid word

/-- Induction from one white space to the next. -/
@[elab_as_elim]
theorem blank_induction {motive : Text → Prop} (solid : ∀ text, Solid text → motive text)
    (blank : ∀ front c rest, Solid front → isWhitespace c = true → motive rest →
      motive (front ++ c :: rest)) (text : Text) : motive text := by
  have general : ∀ front, Solid front → motive (front ++ text) := by
    induction text with
    | nil => exact fun front isSolid => by simpa using solid front isSolid
    | cons c rest ih =>
      intro front isSolid
      cases space : isWhitespace c with
      | true => exact blank front c rest isSolid space (ih [] (by simp [Solid]))
      | false =>
        have longer : Solid (front ++ [c]) := by
          simpa [Solid, or_imp, forall_and, space] using isSolid
        simpa using ih (front ++ [c]) longer
  exact general [] (by simp [Solid])

theorem wordsFrom_append_blank (word text : Text) {c : Char} (space : isWhitespace c = true)
    (rest : Text) : wordsFrom word (text ++ c :: rest) = wordsFrom word text ++ words rest := by
  induction text generalizing word with
  | nil => cases word <;> simp [wordsFrom, space, words]
  | cons d text ih => cases word <;> simp [wordsFrom, ih, apply_ite (· ++ words rest)]

theorem words_append_blank (text : Text) {c : Char} (space : isWhitespace c = true) (rest : Text) :
    words (text ++ c :: rest) = words text ++ words rest :=
  wordsFrom_append_blank [] text space rest

theorem wordsFrom_of_solid {text : Text} (solid : Solid text) (word : Text) :
    wordsFrom word text = wordsFrom (text.reverse ++ word) [] := by
  induction text generalizing word with
  | nil => rfl
  | cons c text ih =>
    obtain ⟨first, others⟩ := List.forall_mem_cons.mp solid
    simp [wordsFrom, first, ih others]

theorem words_of_solid {text : Text} (solid : Solid text) :
    words text = if text = [] then [] else [text] := by
  rw [words, wordsFrom_of_solid solid]
  simp [wordsFrom]

theorem IsWord.words_eq {word : Text} (isWord : IsWord word) : words word = [word] := by
  rw [words_of_solid isWord.solid, if_neg isWord.nonempty]

theorem isWord_of_mem_words_of_solid {text : Text} (solid : Solid text) :
    ∀ word ∈ words text, IsWord word := by
  intro word member
  rw [words_of_solid solid] at member
  by_cases empty : text = []
  · simp [empty] at member
  · obtain rfl : word = text := by simpa [empty] using member
    exact ⟨empty, solid⟩

theorem isWord_of_mem_words (text : Text) : ∀ word ∈ words text, IsWord word := by
  induction text using blank_induction with
  | solid text isSolid => exact isWord_of_mem_words_of_solid isSolid
  | blank front c rest isSolid space ih =>
    rw [words_append_blank front space]
    intro word member
    rcases List.mem_append.mp member with first | later
    · exact isWord_of_mem_words_of_solid isSolid word first
    · exact ih word later

theorem isWhitespace_space : isWhitespace ' ' = true := rfl

theorem words_joinSpaced (pieces : List Text) : words (joinSpaced pieces) = pieces.flatMap words := by
  cases pieces with
  | nil => rfl
  | cons piece pieces =>
    rw [joinSpaced_cons, List.flatMap_cons]
    induction pieces generalizing piece with
    | nil => simp
    | cons next pieces ih =>
      rw [List.flatMap_cons, List.cons_append, words_append_blank _ isWhitespace_space, ih,
        List.flatMap_cons]

/-- Words that are joined can be told apart again. -/
theorem words_joinSpaced_words {pieces : List Text} (each : ∀ piece ∈ pieces, IsWord piece) :
    words (joinSpaced pieces) = pieces := by
  rw [words_joinSpaced]
  induction pieces with
  | nil => rfl
  | cons piece pieces ih =>
    obtain ⟨first, others⟩ := List.forall_mem_cons.mp each
    rw [List.flatMap_cons, first.words_eq, ih others, List.singleton_append]

/-- Every character of the text is white space. -/
def Blank (text : Text) : Prop := ∀ c ∈ text, isWhitespace c = true

instance (text : Text) : Decidable (Blank text) :=
  List.decidableBAll (isWhitespace · = true) text

theorem blank_iff_of_solid {text : Text} (solid : Solid text) : Blank text ↔ text = [] := by
  cases text with
  | nil => simp [Blank]
  | cons c text => simp [Blank, solid c List.mem_cons_self]

/-- Blank texts are those without words. -/
theorem words_eq_nil_iff (text : Text) : words text = [] ↔ Blank text := by
  induction text using blank_induction with
  | solid text isSolid => rw [words_of_solid isSolid, blank_iff_of_solid isSolid]; simp
  | blank front c rest isSolid space ih =>
    have split : Blank (front ++ c :: rest) ↔ Blank front ∧ Blank rest := by
      simp [Blank, or_imp, forall_and, space]
    rw [words_append_blank front space, List.append_eq_nil_iff, ih, split,
      blank_iff_of_solid isSolid, words_of_solid isSolid]
    simp

theorem joinSpaced_eq_nil_iff {pieces : List Text} (each : ∀ piece ∈ pieces, IsWord piece) :
    joinSpaced pieces = [] ↔ pieces = [] := by
  constructor
  · intro nothing
    rw [← words_joinSpaced_words each, nothing]
    rfl
  · rintro rfl
    rfl

theorem joinSpaced_flatten {blocks : List (List Text)}
    (each : ∀ block ∈ blocks, ∀ piece ∈ block, piece ≠ []) :
    joinSpaced ((blocks.map joinSpaced).filter (!·.isEmpty)) = joinSpaced blocks.flatten := by
  rw [joinSpaced_eq_tail, joinSpaced_eq_tail]
  congr 1
  induction blocks with
  | nil => rfl
  | cons block blocks ih =>
    obtain ⟨here, later⟩ := List.forall_mem_cons.mp each
    cases block with
    | nil => simpa [joinSpaced, joinBy] using ih later
    | cons piece pieces =>
      have nonempty : piece ≠ [] := here piece List.mem_cons_self
      have whole : joinSpaced (piece :: pieces) ≠ [] := by simp [joinSpaced_cons, nonempty]
      have kept : (!(joinSpaced (piece :: pieces)).isEmpty) = true := by simpa using whole
      rw [List.map_cons, List.filter_cons, if_pos kept, List.flatMap_cons, ih later,
        spaced_joinSpaced (List.cons_ne_nil _ _), List.flatten_cons, List.flatMap_append]

/-! Texts without white space other than spaces. -/

/-- The white space of a text is spaces. -/
def OnlySpaces (text : Text) : Prop := ∀ c ∈ text, isWhitespace c = true → c = ' '

theorem Solid.onlySpaces {text : Text} (solid : Solid text) : OnlySpaces text :=
  fun c member space => by simp [solid c member] at space

theorem onlySpaces_joinSpaced {pieces : List Text} (each : ∀ piece ∈ pieces, OnlySpaces piece) :
    OnlySpaces (joinSpaced pieces) := by
  intro c member space
  rw [joinSpaced_eq_tail] at member
  obtain ⟨piece, inside, among⟩ := List.mem_flatMap.mp (List.mem_of_mem_tail member)
  rcases List.mem_cons.mp among with same | later
  · exact same
  · exact each piece inside c later space

theorem joinSpaced_append_singleton {pieces : List Text} (nonempty : pieces ≠ []) (last : Text) :
    joinSpaced (pieces ++ [last]) = joinSpaced pieces ++ ' ' :: last := by
  cases pieces with
  | nil => exact absurd rfl nonempty
  | cons piece pieces => simp [joinSpaced_cons]

theorem head?_joinSpaced {pieces : List Text} (each : ∀ piece ∈ pieces, IsWord piece) :
    ∀ c ∈ (joinSpaced pieces).head?, isWhitespace c = false := by
  cases pieces with
  | nil => simp [joinSpaced, joinBy]
  | cons piece pieces =>
    obtain ⟨nonempty, solid⟩ := each piece List.mem_cons_self
    obtain ⟨first, rest, rfl⟩ := List.exists_cons_of_ne_nil nonempty
    simpa [joinSpaced_cons] using solid first List.mem_cons_self

theorem getLast?_joinSpaced {pieces : List Text} (each : ∀ piece ∈ pieces, IsWord piece) :
    ∀ c ∈ (joinSpaced pieces).getLast?, isWhitespace c = false := by
  rcases List.eq_nil_or_concat pieces with rfl | ⟨front, last, rfl⟩
  · simp [joinSpaced, joinBy]
  · obtain ⟨nonempty, solid⟩ := each last (by simp)
    have ends : (joinSpaced (front ++ [last])).getLast? = last.getLast? := by
      by_cases alone : front = []
      · simp [alone, joinSpaced, joinBy]
      · rw [joinSpaced_append_singleton alone]
        simp [List.getLast?_append, List.getLast?_cons, List.getLast?_eq_some_getLast nonempty]
    rw [List.concat_eq_append, ends]
    exact fun c found => solid c (List.mem_of_getLast? found)

/-! Trimming. -/

theorem trimStart_append {gap text : Text} (blank : ∀ c ∈ gap, isWhitespace c = true)
    (starts : ∀ c ∈ text.head?, isWhitespace c = false) : trimStart (gap ++ text) = text := by
  rw [trimStart, List.dropWhile_append_of_pos blank]
  cases text with
  | nil => rfl
  | cons c text => exact List.dropWhile_cons_of_neg (by simp [starts c rfl])

theorem trim_between {front text back : Text} (blankFront : ∀ c ∈ front, isWhitespace c = true)
    (blankBack : ∀ c ∈ back, isWhitespace c = true) (starts : ∀ c ∈ text.head?, isWhitespace c = false)
    (ends : ∀ c ∈ text.getLast?, isWhitespace c = false) : trim (front ++ (text ++ back)) = text := by
  have backwards : ∀ c ∈ back.reverse, isWhitespace c = true := by simpa using blankBack
  have endsBack : ∀ c ∈ text.reverse.head?, isWhitespace c = false := by simpa using ends
  cases text with
  | nil =>
    have blank : ∀ c ∈ front ++ back, isWhitespace c = true :=
      List.forall_mem_append.mpr ⟨blankFront, blankBack⟩
    have nothing : trimStart (front ++ back ++ []) = [] := trimStart_append blank (by simp)
    rw [List.append_nil] at nothing
    rw [trim, List.nil_append, nothing]
    rfl
  | cons c text =>
    have middle : trimStart (front ++ (c :: text ++ back)) = c :: text ++ back :=
      trimStart_append blankFront starts
    rw [trim, middle, trimEnd, List.reverse_append, trimStart_append backwards endsBack,
      List.reverse_reverse]

/-! Bytes. -/

theorem ofUtf8?_eq_some {bytes : ByteArray} {text : Text} :
    ofUtf8? bytes = some text ↔ bytes = toUtf8 text := by
  rw [ofUtf8?, toUtf8, Option.map_eq_some_iff]
  constructor
  · rintro ⟨spelled, valid, rfl⟩
    unfold String.fromUTF8? at valid
    split at valid
    · obtain rfl := Option.some.inj valid
      rw [String.ofList_toList]
      rfl
    · cases valid
  · rintro rfl
    refine ⟨String.ofList text, ?_, String.toList_ofList⟩
    unfold String.fromUTF8?
    rw [String.toUTF8_eq_toByteArray, dif_pos (String.ofList text).isValidUTF8]
    rfl

end SpokenForm.Text
