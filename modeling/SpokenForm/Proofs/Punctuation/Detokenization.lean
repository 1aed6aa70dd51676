import Mathlib.Algebra.Ring.Parity
import SpokenForm.Proofs.Punctuation.Respacing

/-! Words joined as they are printed. Whether a word takes a space in front depends on the word, on the
one before it, and on how many quotation marks have come by then. -/
namespace SpokenForm.Punctuation

open Text

variable {earlier words : List Text} {word : Text} {quoted : Bool}

/-- A quotation mark that stands alone. -/
def quotationMark : Text := ['"']

/-- The rest of a contraction: `n't`, or one or two letters behind an apostrophe. -/
def ContractionSuffix (word : Text) : Prop :=
  word = "n't".toList ∨ ∃ letters, word = '\'' :: letters ∧
    (letters.length = 1 ∨ letters.length = 2) ∧ ∀ letter ∈ letters, isLetter letter = true

theorem isContraction_iff (word : Text) : isContraction word = true ↔ ContractionSuffix word := by
  constructor
  · intro holds
    unfold isContraction at holds
    split at holds
    · exact .inl rfl
    · exact .inr ⟨_, rfl, .inl rfl, by simpa using holds⟩
    · exact .inr ⟨_, rfl, .inr rfl, by simpa using holds⟩
    · cases holds
  · rintro (rfl | ⟨letters, rfl, length, each⟩)
    · rfl
    · rcases length with one | two
      · obtain ⟨a, rfl⟩ := List.length_eq_one_iff.mp one
        simpa [isContraction] using each
      · obtain ⟨a, b, rfl⟩ := List.length_eq_two.mp two
        simpa [isContraction] using each

/-- A word that takes no space in front of it: a closing mark, the rest of a contraction, or the second
of two quotation marks, the fourth, and so on. -/
def ClingsBack (earlier : List Text) (word : Text) : Prop :=
  (∃ mark ∈ closingMarks, word = [mark]) ∨ ContractionSuffix word ∨
    word = quotationMark ∧ Odd (earlier.count quotationMark)

/-- A word that takes no space behind it: an opening mark, or the first quotation mark, the third, and so
on. -/
def ClingsOn (earlier : List Text) (word : Text) : Prop :=
  (∃ mark ∈ openingMarks, word = [mark]) ∨
    word = quotationMark ∧ Even (earlier.count quotationMark)

theorem openingMarks_disjoint : ∀ mark ∈ openingMarks, mark ∉ closingMarks := by
  have apart : (openingMarks.all fun mark => !closingMarks.contains mark) = true := by decide
  simpa only [List.all_eq_true, Bool.not_eq_true', List.contains_eq_mem, decide_eq_false_iff_not]
    using apart

theorem quotationMark_notMem : '"' ∉ closingMarks ∧ '"' ∉ openingMarks := by decide

theorem not_contractionSuffix_singleton (c : Char) : ¬ ContractionSuffix [c] := by
  rintro (same | ⟨letters, same, length, -⟩)
  · simp at same
  · obtain ⟨-, rfl⟩ := List.cons.inj same
    simp at length

/-- The attachment of a word says what it clings to, where a quotation is open behind an odd number of
quotation marks. -/
theorem attachment_iff (opened : quoted = true ↔ Odd (earlier.count quotationMark)) (word : Text) :
    (attachment quoted word = .toPrevious ↔ ClingsBack earlier word) ∧
      (attachment quoted word = .toNext ↔ ClingsOn earlier word) := by
  unfold attachment
  split
  · have noContraction := not_contractionSuffix_singleton '"'
    obtain ⟨notClosing, notOpening⟩ := quotationMark_notMem
    have closing : ClingsBack earlier ['"'] ↔ quoted = true := by
      simp [ClingsBack, noContraction, notClosing, quotationMark, opened]
    have opening : ClingsOn earlier ['"'] ↔ ¬ quoted = true := by
      simp [ClingsOn, notOpening, quotationMark, opened]
    rw [closing, opening]
    cases quoted <;> simp
  · rename_i c other
    have noContraction := not_contractionSuffix_singleton c
    have noQuotation : [c] ≠ quotationMark := fun same => other (List.cons.inj same).1
    have closing : ClingsBack earlier [c] ↔ c ∈ closingMarks := by
      simp [ClingsBack, noContraction, noQuotation]
    have opening : ClingsOn earlier [c] ↔ c ∈ openingMarks := by
      simp [ClingsOn, noQuotation]
    rw [closing, opening]
    by_cases isClosing : c ∈ closingMarks
    · have notOpening : c ∉ openingMarks := fun isOpening =>
        openingMarks_disjoint c isOpening isClosing
      simp [isClosing, notOpening]
    · by_cases isOpening : c ∈ openingMarks
      · simp [isClosing, isOpening]
      · simp [isClosing, isOpening]
  · rename_i notQuotation long
    have notQuotation : word ≠ quotationMark := notQuotation
    have notMark (marks : Text) : ¬ ∃ mark ∈ marks, word = [mark] := by
      rintro ⟨mark, -, same⟩
      exact long mark same
    have back : ClingsBack earlier word ↔ isContraction word = true := by
      rw [ClingsBack, isContraction_iff]
      simp [notMark, notQuotation]
    have on : ¬ ClingsOn earlier word := by
      simp [ClingsOn, notMark, notQuotation]
    rw [back, iff_false_right on]
    cases isContraction word <;> simp

/-- A quotation mark opens a quotation or closes it, and no other word does. -/
theorem opened_append (opened : quoted = true ↔ Odd (earlier.count quotationMark)) (word : Text) :
    (if word = quotationMark then !quoted else quoted) = true ↔
      Odd ((earlier ++ [word]).count quotationMark) := by
  rw [List.count_append]
  by_cases mark : word = quotationMark
  · rw [if_pos mark, mark, List.count_singleton_self, Nat.odd_add_one, ← opened]
    simp
  · rw [if_neg mark, List.count_singleton, if_neg (by simpa using mark)]
    exact opened

theorem joinFrom_cons (glued quoted : Bool) (word : Text) (words : List Text) :
    joinFrom glued quoted (word :: words) =
      gap (!(glued || attachment quoted word = .toPrevious)) ++ (word ++
        joinFrom (attachment quoted word = .toNext)
          (if word = quotationMark then !quoted else quoted) words) := by
  rw [joinFrom]
  split
  · rename_i attached
    rw [attached]
    rfl
  · rename_i apart
    rw [Bool.not_eq_true] at apart
    rw [apart]
    rfl

/-- Joined words are the words in order, each behind its space or none. -/
theorem exists_spaces_joinFrom (glued : Bool)
    (opened : quoted = true ↔ Odd (earlier.count quotationMark)) (words : List Text) :
    ∃ spaces : List Bool, spaces.length = words.length ∧
      joinFrom glued quoted words =
        (List.zipWith (fun space word => gap space ++ word) spaces words).flatten ∧
      (∀ first ∈ words.head?,
        (spaces.head? = some true ↔ ¬ (glued = true ∨ ClingsBack earlier first))) ∧
      ∀ front u w back, words = front ++ u :: w :: back →
        (spaces[front.length + 1]? = some true ↔
          ¬ (ClingsOn (earlier ++ front) u ∨ ClingsBack (earlier ++ (front ++ [u])) w)) := by
  induction words generalizing earlier glued quoted with
  | nil => exact ⟨[], rfl, rfl, by simp, by simp⟩
  | cons word words ih =>
    obtain ⟨back, on⟩ := attachment_iff opened word
    obtain ⟨spaces, length, joined, first, pairs⟩ :=
      ih (attachment quoted word = .toNext) (opened_append opened word)
    refine ⟨(!(glued || attachment quoted word = .toPrevious)) :: spaces, by simp [length],
      ?_, ?_, ?_⟩
    · rw [List.zipWith_cons_cons, List.flatten_cons, ← joined, joinFrom_cons, List.append_assoc]
    · rintro _ ⟨⟩
      simp [back]
    · intro front u w behind split
      cases front with
      | nil =>
        obtain ⟨rfl, rfl⟩ := List.cons.inj split
        simpa [on, List.head?_eq_getElem?] using first w rfl
      | cons other front =>
        obtain ⟨rfl, rfl⟩ := List.cons.inj split
        simpa using pairs front u w behind rfl

/-- A text is joined from its words in order. Between two of them stands one space, unless the second
takes none in front of it or the first takes none behind it. -/
theorem detokenize_separates (text : Text) :
    ∃ spaces : List Bool, spaces.length = text.words.length ∧
      detokenize text =
        (List.zipWith (fun space word => gap space ++ word) spaces text.words).flatten ∧
      spaces.head? ≠ some true ∧
      ∀ front u w back, text.words = front ++ u :: w :: back →
        (spaces[front.length + 1]? = some true ↔ ¬ (ClingsOn front u ∨ ClingsBack (front ++ [u]) w)) := by
  have closed : false = true ↔ Odd (([] : List Text).count quotationMark) := by simp
  obtain ⟨spaces, length, joined, first, pairs⟩ := exists_spaces_joinFrom true closed text.words
  refine ⟨spaces, length, joined, ?_, pairs⟩
  cases found : text.words with
  | nil =>
    rw [found] at length
    simp [List.length_eq_zero_iff.mp length]
  | cons word words =>
    intro begins
    exact (first word (by simp [found])).mp begins (.inl rfl)

/-- A quotation opens behind a bracket, and closes in front of a comma. -/
example : detokenize "say ( \" yes \" , it 's )".toList = "say (\"yes\", it's)".toList := by
  decide

end SpokenForm.Punctuation
