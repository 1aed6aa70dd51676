import SpokenForm.Proofs.Punctuation

/-! Collapsed spaces, and room around square brackets. Each of the two is done once and for all: to do
it again changes nothing, and no character is lost or moved but white space. -/
namespace SpokenForm.Punctuation

open Text Unicode

/-! One space of every run. -/

theorem squeezeFrom_sublist (afterSpace : Bool) (text : Text) :
    (squeezeFrom afterSpace text).Sublist text := by
  induction text generalizing afterSpace with
  | nil => exact .slnil
  | cons c text ih =>
    rw [squeezeFrom_cons]
    split
    · exact (ih _).cons c
    · exact (ih _).cons_cons c

theorem unspaced_squeezeFrom (afterSpace : Bool) (text : Text) :
    unspaced (squeezeFrom afterSpace text) = unspaced text := by
  induction text generalizing afterSpace with
  | nil => rfl
  | cons c text ih =>
    rw [squeezeFrom_cons, unspaced_append, ih, unspaced_cons c text]
    split
    · rename_i again
      rw [again.1]
      rfl
    · rfl

theorem squeezeFrom_squeezeFrom (afterSpace : Bool) (text : Text) :
    squeezeFrom afterSpace (squeezeFrom afterSpace text) = squeezeFrom afterSpace text := by
  induction text generalizing afterSpace with
  | nil => rfl
  | cons c text ih =>
    by_cases space : c = ' '
    · cases afterSpace <;> simp [squeezeFrom, space, ih]
    · simp [squeezeFrom, space, ih]

/-- What holds between neighbours still holds where spaces are left out of runs, and no two spaces are
neighbours any more. -/
theorem isChain_squeezeFrom {linked : Char → Char → Prop} {c : Char} {text : Text}
    (chain : (c :: text).IsChain linked) :
    (c :: squeezeFrom (c = ' ') text).IsChain fun a b => linked a b ∧ ¬ (a = ' ' ∧ b = ' ') := by
  induction text generalizing c with
  | nil => exact .singleton c
  | cons d text ih =>
    obtain ⟨link, later⟩ := List.isChain_cons_cons.mp chain
    have rest := ih later
    by_cases again : c = ' ' ∧ d = ' '
    · obtain ⟨rfl, rfl⟩ := again
      simpa [squeezeFrom] using rest
    · have kept : squeezeFrom (c = ' ') (d :: text) = d :: squeezeFrom (d = ' ') text := by
        rw [squeezeFrom_cons, if_neg (by simpa [and_comm] using again), List.singleton_append]
      rw [kept]
      exact List.isChain_cons_cons.mpr ⟨⟨link, again⟩, rest⟩

theorem isChain_collapseSpaces {linked : Char → Char → Prop} {text : Text}
    (chain : text.IsChain linked) :
    (collapseSpaces text).IsChain fun a b => linked a b ∧ ¬ (a = ' ' ∧ b = ' ') := by
  obtain ⟨front, back, -, -, whole⟩ := exists_trim (squeezeFrom false text)
  apply List.IsChain.infix (l := squeezeFrom false text)
  · cases text with
    | nil => exact .nil
    | cons c text =>
      rw [squeezeFrom_cons, if_neg (by simp), List.singleton_append]
      exact isChain_squeezeFrom chain
  · refine ⟨front, back, ?_⟩
    rw [List.append_assoc]
    exact whole.symm

theorem unspaced_collapseSpaces (text : Text) : unspaced (collapseSpaces text) = unspaced text := by
  rw [collapseSpaces, unspaced_trim, unspaced_squeezeFrom]

/-! White space around a text makes no difference. -/

theorem collapseSpaces_cons_of_blank {c : Char} (space : isWhitespace c = true) (text : Text) :
    collapseSpaces (c :: text) = collapseSpaces text := by
  rw [collapseSpaces, squeezeFrom_cons, if_neg (by simp), List.singleton_append,
    trim_cons_of_blank space, trim_squeezeFrom]

theorem exists_squeezeFrom_append {back : Text} (blank : Blank back) (afterSpace : Bool) (text : Text) :
    ∃ gap, Blank gap ∧ squeezeFrom afterSpace (text ++ back) = squeezeFrom afterSpace text ++ gap := by
  induction text generalizing afterSpace with
  | nil =>
    refine ⟨squeezeFrom afterSpace back, ?_, rfl⟩
    intro c member
    exact blank c ((squeezeFrom_sublist afterSpace back).subset member)
  | cons c text ih =>
    obtain ⟨gap, blankGap, behind⟩ := ih (c = ' ')
    refine ⟨gap, blankGap, ?_⟩
    rw [List.cons_append, squeezeFrom_cons, squeezeFrom_cons, behind, List.append_assoc]

theorem collapseSpaces_around {front back : Text} (blankFront : Blank front) (blankBack : Blank back)
    (text : Text) : collapseSpaces (front ++ (text ++ back)) = collapseSpaces text := by
  induction front with
  | nil =>
    obtain ⟨gap, blankGap, behind⟩ := exists_squeezeFrom_append blankBack false text
    have around := trim_around Blank.nil blankGap (squeezeFrom false text)
    rw [List.nil_append, collapseSpaces, behind]
    exact around
  | cons c front ih =>
    obtain ⟨space, later⟩ := List.forall_mem_cons.mp blankFront
    rw [List.cons_append, collapseSpaces_cons_of_blank space, ih later]

theorem collapseSpaces_trim (text : Text) : collapseSpaces (trim text) = collapseSpaces text := by
  obtain ⟨front, back, blankFront, blankBack, whole⟩ := exists_trim text
  have around := collapseSpaces_around blankFront blankBack (trim text)
  rw [← whole] at around
  exact around.symm

theorem collapseSpaces_collapseSpaces (text : Text) :
    collapseSpaces (collapseSpaces text) = collapseSpaces text := by
  calc collapseSpaces (collapseSpaces text)
      = collapseSpaces (squeezeFrom false text) := collapseSpaces_trim _
    _ = collapseSpaces text := congrArg trim (squeezeFrom_squeezeFrom false text)

/-! Room around square brackets. -/

/-- A square bracket, which wants room. -/
def IsBracket (c : Char) : Prop := c = '[' ∨ c = ']'

/-- Next to a square bracket there is a space. -/
def Roomy (c next : Char) : Prop := (IsBracket c → next = ' ') ∧ (IsBracket next → c = ' ')

theorem spaced_of_bracket {c : Char} (bracket : IsBracket c) : spaced c = [' ', c, ' '] :=
  if_pos bracket

theorem spaced_of_other {c : Char} (other : ¬ IsBracket c) : spaced c = [c] := if_neg other

theorem IsBracket.ne_space {c : Char} (bracket : IsBracket c) : c ≠ ' ' := by
  rcases bracket with rfl | rfl
  · decide
  · decide

theorem not_isBracket_of_blank {c : Char} (space : isWhitespace c = true) : ¬ IsBracket c := by
  intro bracket
  rcases bracket with rfl | rfl
  · exact absurd space (by decide)
  · exact absurd space (by decide)

theorem flatMap_spaced_of_blank {gap : Text} (blank : Blank gap) : gap.flatMap spaced = gap := by
  induction gap with
  | nil => rfl
  | cons c gap ih =>
    obtain ⟨space, later⟩ := List.forall_mem_cons.mp blank
    rw [List.flatMap_cons, spaced_of_other (not_isBracket_of_blank space), ih later,
      List.singleton_append]

theorem unspaced_flatMap_spaced (text : Text) : unspaced (text.flatMap spaced) = unspaced text := by
  induction text with
  | nil => rfl
  | cons c text ih =>
    rw [List.flatMap_cons, unspaced_append, ih, unspaced_cons c text]
    congr 1
    by_cases bracket : IsBracket c
    · rw [spaced_of_bracket bracket, unspaced_space, unspaced_cons, unspaced_space]
      exact List.append_nil _
    · rw [spaced_of_other bracket]

theorem head?_flatMap_spaced (text : Text) : ∀ c ∈ (text.flatMap spaced).head?, ¬ IsBracket c := by
  cases text with
  | nil => simp
  | cons c text =>
    by_cases bracket : IsBracket c
    · simpa [spaced_of_bracket bracket] using not_isBracket_of_blank isWhitespace_space
    · simpa [spaced_of_other bracket] using bracket

theorem isChain_flatMap_spaced (text : Text) : (text.flatMap spaced).IsChain Roomy := by
  have noBracket : ¬ IsBracket ' ' := not_isBracket_of_blank isWhitespace_space
  induction text with
  | nil => exact .nil
  | cons c text ih =>
    have next := head?_flatMap_spaced text
    rw [List.flatMap_cons]
    apply List.isChain_append.mpr
    by_cases bracket : IsBracket c
    · rw [spaced_of_bracket bracket]
      refine ⟨by simp [Roomy, noBracket], ih, ?_⟩
      intro last isLast d first
      obtain rfl : ' ' = last := by simpa using isLast
      exact ⟨fun bracket => absurd bracket noBracket, fun bracket => absurd bracket (next d first)⟩
    · rw [spaced_of_other bracket]
      refine ⟨.singleton c, ih, ?_⟩
      intro last isLast d first
      obtain rfl : c = last := by simpa using isLast
      exact ⟨fun isBracket => absurd isBracket bracket, fun bracket => absurd bracket (next d first)⟩

/-- Room that is made between two squeezes is squeezed as if the first had not been. -/
theorem squeezeFrom_spaced_again (afterSpace : Bool) (text : Text) :
    squeezeFrom afterSpace ((squeezeFrom afterSpace (text.flatMap spaced)).flatMap spaced) =
      squeezeFrom afterSpace (text.flatMap spaced) := by
  have noBracket : ¬ IsBracket ' ' := not_isBracket_of_blank isWhitespace_space
  have same : spaced ' ' = [' '] := spaced_of_other noBracket
  induction text generalizing afterSpace with
  | nil => rfl
  | cons c text ih =>
    by_cases bracket : IsBracket c
    · have room := spaced_of_bracket bracket
      cases afterSpace <;> simp [squeezeFrom, room, same, bracket.ne_space, ih]
    · have room := spaced_of_other bracket
      by_cases space : c = ' '
      · cases afterSpace <;> simp [squeezeFrom, same, space, ih]
      · simp [squeezeFrom, room, space, ih]

theorem preProcess_trim (text : Text) : preProcess (trim text) = preProcess text := by
  obtain ⟨front, back, blankFront, blankBack, whole⟩ := exists_trim text
  have around := collapseSpaces_around blankFront blankBack ((trim text).flatMap spaced)
  conv_rhs => rw [whole]
  rw [preProcess, preProcess, List.flatMap_append, List.flatMap_append,
    flatMap_spaced_of_blank blankFront, flatMap_spaced_of_blank blankBack, around]

theorem preProcess_preProcess (text : Text) : preProcess (preProcess text) = preProcess text := by
  calc preProcess (preProcess text)
      = preProcess (squeezeFrom false (text.flatMap spaced)) := preProcess_trim _
    _ = preProcess text := congrArg trim (squeezeFrom_spaced_again false text)

/-- What is left when room has been made: all characters but white space, single spaces, no white space
at the ends, and at every square bracket a space on either side where the text goes on. -/
structure MakesRoom (text roomy : Text) : Prop where
  content : unspaced roomy = unspaced text
  apart : roomy.IsChain fun c next => ¬ (c = ' ' ∧ next = ' ')
  starts : ∀ c ∈ roomy.head?, isWhitespace c = false
  ends : ∀ c ∈ roomy.getLast?, isWhitespace c = false
  room : ∀ front bracket back, roomy = front ++ bracket :: back → IsBracket bracket →
    (∀ c ∈ front.getLast?, c = ' ') ∧ ∀ c ∈ back.head?, c = ' '

theorem makesRoom_preProcess (text : Text) : MakesRoom text (preProcess text) := by
  have chain := isChain_collapseSpaces (isChain_flatMap_spaced text)
  refine ⟨?_, chain.imp fun _ _ both => both.2, head?_trim _, getLast?_trim _, ?_⟩
  · rw [preProcess, unspaced_collapseSpaces, unspaced_flatMap_spaced]
  · intro front bracket back whole isBracket
    rw [← preProcess, whole] at chain
    obtain ⟨-, later, before⟩ := List.isChain_append.mp chain
    obtain ⟨behind, -⟩ := List.isChain_cons.mp later
    constructor
    · intro c last
      exact (before c last bracket rfl).1.2 isBracket
    · intro c first
      exact (behind c first).1.1 isBracket

/-- Room is made in one go, as spaces are collapsed in one go. -/
theorem preProcess_makes_room_once (text : Text) :
    MakesRoom text (preProcess text) ∧ preProcess (preProcess text) = preProcess text ∧
      unspaced (collapseSpaces text) = unspaced text ∧
        collapseSpaces (collapseSpaces text) = collapseSpaces text :=
  ⟨makesRoom_preProcess text, preProcess_preProcess text, unspaced_collapseSpaces text,
    collapseSpaces_collapseSpaces text⟩

end SpokenForm.Punctuation
