import SpokenForm.Proofs.Text.Tidy
import SpokenForm.Punctuation

/-! Spaces around punctuation. Joining words makes a tidy text of them and touches nothing but white
space; following the spacing of another text moves spaces only, and leaves them alone between other
characters. -/
namespace SpokenForm.Punctuation

open Text

variable {front text : Text}

/-- A space, or none. -/
def gap (space : Bool) : Text := if space then [' '] else []

@[simp] theorem spaceless_gap (space : Bool) : spaceless (gap space) = [] := by
  cases space <;> rfl

@[simp] theorem reverse_gap (space : Bool) : (gap space).reverse = gap space := by
  cases space <;> rfl

/-! Joined words. -/

theorem unspaced_joinFrom (glued quoted : Bool) {words : List Text}
    (each : ∀ word ∈ words, IsWord word) :
    unspaced (joinFrom glued quoted words) = words.flatten := by
  induction words generalizing glued quoted with
  | nil => rfl
  | cons word words ih =>
    obtain ⟨here, later⟩ := List.forall_mem_cons.mp each
    rw [joinFrom]
    split
    · rw [unspaced_append, unspaced_of_solid here.solid, ih _ _ later, List.flatten_cons]
    · rw [List.cons_append, unspaced_space, unspaced_append, unspaced_of_solid here.solid,
        ih _ _ later, List.flatten_cons]

/-- Words go on behind a tidy text, which may only be empty where the next word is glued. -/
theorem tidy_append_joinFrom (tidy : Tidy front) {glued : Bool} (begun : glued = true ∨ front ≠ [])
    (quoted : Bool) {words : List Text} (each : ∀ word ∈ words, IsWord word) :
    Tidy (front ++ joinFrom glued quoted words) := by
  induction words generalizing front glued quoted with
  | nil => simpa [joinFrom] using tidy
  | cons word words ih =>
    obtain ⟨here, later⟩ := List.forall_mem_cons.mp each
    rw [joinFrom]
    split
    · rw [← List.append_assoc]
      exact ih (tidy.append here.solid.tidy) (.inr (by simp [here.nonempty])) _ later
    · rename_i free
      have nonempty : front ≠ [] := by
        rcases begun with rfl | nonempty
        · simp at free
        · exact nonempty
      have spaced : Tidy (front ++ ' ' :: word) :=
        tidy_append_space_iff.mpr ⟨⟨nonempty, tidy⟩, here.nonempty, here.solid.tidy⟩
      rw [← List.append_assoc]
      exact ih spaced (.inr (by simp)) _ later

theorem unspaced_detokenize (text : Text) : unspaced (detokenize text) = unspaced text := by
  rw [detokenize, unspaced_joinFrom true false (isWord_of_mem_words text), flatten_words]

theorem tidy_detokenize (text : Text) : Tidy (detokenize text) :=
  tidy_append_joinFrom .nil (.inl rfl) false (isWord_of_mem_words text)

/-! The spacing of another text. -/

/-- Only spaces were moved, and where they stood alone between other characters they still do. -/
structure SpacesMoved (text other : Text) : Prop where
  spaceless : Text.spaceless other = Text.spaceless text
  singleSpaced : SingleSpaced text → SingleSpaced other

theorem SpacesMoved.refl (text : Text) : SpacesMoved text text := ⟨rfl, id⟩

theorem SpacesMoved.trans {first second third : Text} (one : SpacesMoved first second)
    (other : SpacesMoved second third) : SpacesMoved first third :=
  ⟨other.spaceless.trans one.spaceless, other.singleSpaced ∘ one.singleSpaced⟩

@[simp] theorem spaceless_setSpace (wanted : Bool) (text : Text) :
    spaceless (setSpace wanted text) = spaceless text := by
  cases text with
  | nil => rfl
  | cons c rest =>
    rw [setSpace]
    by_cases space : c = ' '
    · cases wanted <;> simp [space]
    · cases wanted <;> simp [space]

/-- A space may be set or taken away behind a character that is none. -/
theorem singleSpaced_append_setSpace (nonempty : front ≠ []) (ends : front.getLast? ≠ some ' ')
    (wanted : Bool) (single : SingleSpaced (front ++ text)) :
    SingleSpaced (front ++ setSpace wanted text) := by
  cases text with
  | nil => exact single
  | cons c rest =>
    rw [setSpace]
    by_cases space : c = ' '
    · subst space
      cases wanted with
      | true => exact single
      | false =>
        obtain ⟨⟨-, first⟩, -, second⟩ := singleSpaced_append_space_iff.mp single
        exact first.append second
    · cases wanted with
      | true =>
        have starts : (c :: rest).head? ≠ some ' ' := by simpa using space
        obtain ⟨first, second⟩ := (singleSpaced_append_iff ends starts).mp single
        have spaced : SingleSpaced (front ++ ' ' :: c :: rest) :=
          singleSpaced_append_space_iff.mpr ⟨⟨nonempty, first⟩, by simp, second⟩
        simpa [space] using spaced
      | false => simpa [space] using single

/-- What is in front of a mark stands last character first. -/
theorem spacesMoved_around {mark : Char} (solid : mark ≠ ' ') (spacing : Spacing)
    (front done : Text) :
    SpacesMoved ((mark :: front).reverse ++ done)
      ((setSpace spacing.before front).reverse ++ mark :: setSpace spacing.after done) := by
  constructor
  · rw [List.reverse_cons, List.append_assoc, List.singleton_append, spaceless_append,
      spaceless_append, spaceless_cons, spaceless_cons mark done, spaceless_reverse,
      spaceless_reverse, spaceless_setSpace, spaceless_setSpace]
  · intro single
    have behind : SingleSpaced ((mark :: front).reverse ++ setSpace spacing.after done) :=
      singleSpaced_append_setSpace (by simp) (by simpa using solid) _ single
    -- Backwards, the space in front of the mark is the one behind it.
    have backwards : SingleSpaced (((setSpace spacing.after done).reverse ++ [mark]) ++ front) := by
      have reversed := behind.reverse
      simpa using reversed
    have before := singleSpaced_append_setSpace (by simp) (by simpa using solid) spacing.before
      backwards
    simpa using before.reverse

theorem respace_front (mark : Char) (done : Text) (wanted : List Spacing) :
    respace mark done wanted [] = done := by
  cases wanted <;> rfl

theorem respace_other {mark c : Char} (other : c ≠ mark) (done : Text) (wanted : List Spacing)
    (front : Text) : respace mark done wanted (c :: front) = respace mark (c :: done) wanted front := by
  cases wanted with
  | nil => rw [respace]
  | cons spacing wanted => rw [respace, if_neg other]

theorem respace_nil (mark : Char) (done front : Text) :
    respace mark done [] front = front.reverse ++ done := by
  induction front generalizing done with
  | nil => rfl
  | cons c front ih =>
    rw [respace, ih]
    simp

/-- A mark gets its spacing on both sides. -/
theorem respace_mark {mark : Char} (solid : mark ≠ ' ') (done : Text) (spacing : Spacing)
    (wanted : List Spacing) (front : Text) :
    respace mark done (spacing :: wanted) (mark :: front) =
      respace mark (mark :: setSpace spacing.after done) wanted (setSpace spacing.before front) := by
  cases front with
  | nil => rw [respace, if_pos rfl, setSpace, respace_front]
  | cons d rest =>
    rw [respace, if_pos rfl]
    by_cases space : d = ' '
    · subst space
      cases before : spacing.before with
      | true => simp [setSpace, respace_other (Ne.symm solid)]
      | false => simp [setSpace]
    · cases before : spacing.before with
      | true => simp [setSpace, space, respace_other (Ne.symm solid)]
      | false => simp [setSpace, space]

theorem spacesMoved_respace {mark : Char} (solid : mark ≠ ' ') (done : Text) (wanted : List Spacing)
    (front : Text) : SpacesMoved (front.reverse ++ done) (respace mark done wanted front) := by
  induction wanted generalizing done front with
  | nil =>
    rw [respace_nil]
    exact .refl _
  | cons spacing wanted others =>
    induction front generalizing done with
    | nil =>
      rw [respace_front]
      exact .refl done
    | cons c front ih =>
      by_cases here : c = mark
      · subst here
        rw [respace_mark solid]
        exact (spacesMoved_around solid spacing front done).trans (others _ _)
      · rw [respace_other here, List.reverse_cons, List.append_assoc]
        exact ih (c :: done)

theorem spacesMoved_restoreMark (raw text : Text) {mark : Char} (solid : mark ≠ ' ') :
    SpacesMoved text (restoreMark raw text mark) := by
  rw [restoreMark]
  split
  · have whole := spacesMoved_respace solid [] (spacings mark raw).reverse text.reverse
    simpa using whole
  · exact .refl text

theorem spacesMoved_foldl (raw : Text) {marks : Text} (solid : ∀ mark ∈ marks, mark ≠ ' ')
    (text : Text) : SpacesMoved text (marks.foldl (restoreMark raw) text) := by
  induction marks generalizing text with
  | nil => exact .refl text
  | cons mark marks ih =>
    obtain ⟨here, others⟩ := List.forall_mem_cons.mp solid
    exact (spacesMoved_restoreMark raw text here).trans (ih others _)

theorem ne_space_of_mem_restoredMarks : ∀ mark ∈ restoredMarks, mark ≠ ' ' := by
  have spaceless : ' ' ∉ restoredMarks := by decide
  intro mark member
  exact ne_of_mem_of_not_mem member spaceless

theorem spacesMoved_restoreSpacing (raw text : Text) : SpacesMoved text (restoreSpacing raw text) :=
  spacesMoved_foldl raw ne_space_of_mem_restoredMarks text

/-- Only white space was moved, and a tidy text stayed tidy. -/
structure Respaced (text other : Text) : Prop where
  unspaced : Text.unspaced other = Text.unspaced text
  tidy : Tidy text → Tidy other

theorem SpacesMoved.respaced {other : Text} (moved : SpacesMoved text other) :
    Respaced text other := by
  constructor
  · rw [← unspaced_spaceless, moved.spaceless, unspaced_spaceless]
  · intro tidy
    obtain ⟨only, single⟩ := tidy_iff.mp tidy
    refine tidy_iff.mpr ⟨?_, moved.singleSpaced single⟩
    rw [← solid_spaceless_iff, moved.spaceless]
    exact solid_spaceless_iff.mpr only

theorem respaced_restoreSpacing (raw text : Text) : Respaced text (restoreSpacing raw text) :=
  (spacesMoved_restoreSpacing raw text).respaced

end SpokenForm.Punctuation
