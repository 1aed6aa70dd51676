import SpokenForm.Proofs.Text.Trimming
import SpokenForm.Whitelist

/-! Whitelists by their entries. The first entry of a phrase decides its replacement, and an input that
is nothing but a listed phrase is one segment, whatever other phrases overlap with it. -/
namespace SpokenForm

namespace Text

theorem joinSpaced_words_inj {text other : Text} :
    joinSpaced text.words = joinSpaced other.words ↔ text.words = other.words := by
  constructor
  · intro same
    have words := congrArg words same
    rwa [words_joinSpaced_words (isWord_of_mem_words text),
      words_joinSpaced_words (isWord_of_mem_words other)] at words
  · intro same
    rw [same]

end Text

namespace Whitelist

open Text

variable {list : Whitelist} {direction : Direction} {phrase replacement key : Text}

/-- Which of two forms is replaced, and by which. -/
def orient : Direction → Text × Text → Text × Text
  | .normalize, forms => forms
  | .inverse, forms => forms.swap

/-- The entries on lines, blank lines aside: phrases with their replacements. -/
def entriesOf (direction : Direction) (lines : List Text) : List (Text × Text) :=
  ((lines.filter (!·.trim.isEmpty)).filterMap formsOfLine?).map (orient direction)

def insertAll (list : Whitelist) (entries : List (Text × Text)) : Whitelist :=
  entries.foldl (fun list entry => list.insert entry.1 entry.2) list

theorem addLines_eq_ok {final : Whitelist} {number : Nat} {lines : List Text}
    (success : list.addLines direction number lines = .ok final) :
    final = list.insertAll (entriesOf direction lines) := by
  induction lines generalizing list number with
  | nil => exact (Except.ok.inj success).symm
  | cons line rest ih =>
    rw [addLines] at success
    split at success
    · rename_i blank
      simpa [entriesOf, blank] using ih success
    · rename_i solid
      split at success
      · cases success
      · rename_i written spoken forms
        have entries : entriesOf direction (line :: rest) =
            orient direction (written, spoken) :: entriesOf direction rest := by
          simp [entriesOf, solid, forms]
        rw [entries, ih success]
        cases direction <;> rfl

theorem not_blank_of_formsOfLine? {line written spoken : Text}
    (forms : formsOfLine? line = some (written, spoken)) : ¬ written.Blank ∧ ¬ spoken.Blank := by
  unfold formsOfLine? at forms
  split at forms
  · rename_i first second others columns
    have trimmed : ∀ column ∈ first :: second :: others, column ≠ [] → ¬ Blank column := by
      rw [← columns, List.forall_mem_map]
      intro column _ nonempty
      exact not_blank_trim nonempty
    split at forms
    · cases forms
    · rename_i filled
      obtain ⟨rfl, rfl⟩ := Prod.mk.inj (Option.some.inj forms)
      simp only [Bool.or_eq_true, List.isEmpty_iff, not_or] at filled
      exact ⟨trimmed _ (by simp) filled.1, trimmed _ (by simp) filled.2⟩
  · cases forms

theorem not_blank_of_mem_entriesOf {lines : List Text} :
    ∀ entry ∈ entriesOf direction lines, ¬ entry.1.Blank := by
  intro entry member
  obtain ⟨⟨written, spoken⟩, found, rfl⟩ := List.mem_map.mp member
  obtain ⟨line, -, forms⟩ := List.mem_filterMap.mp found
  obtain ⟨solidWritten, solidSpoken⟩ := not_blank_of_formsOfLine? forms
  cases direction with
  | normalize => exact solidWritten
  | inverse => exact solidSpoken

/-- A phrase that is listed already keeps its replacement. -/
theorem get?_insert (list : Whitelist) (solid : ¬ phrase.Blank) (replacement key : Text) :
    (list.insert phrase replacement).get? key =
      (list.get? key).or (if key = joinSpaced phrase.words then some replacement else none) := by
  have nonempty : phrase.words.isEmpty = false := by simpa [words_eq_nil_iff] using solid
  rw [insert]
  simp only [nonempty, Bool.false_eq_true, if_false]
  cases known : list.get? (joinSpaced phrase.words) with
  | some first =>
    change list.get? key = _
    by_cases same : key = joinSpaced phrase.words
    · subst same
      rw [known, Option.some_or]
    · rw [if_neg same, Option.or_none]
  | none =>
    change (list.entries ++ [(joinSpaced phrase.words, replacement)]).lookup key = _
    rw [List.lookup_append]
    by_cases same : key = joinSpaced phrase.words
    · simp [get?, same]
    · simp [get?, same]

theorem get?_insertAll (list : Whitelist) {entries : List (Text × Text)}
    (solid : ∀ entry ∈ entries, ¬ entry.1.Blank) (key : Text) :
    (list.insertAll entries).get? key =
      (list.get? key).or (entries.findSome? fun entry =>
        if key = joinSpaced entry.1.words then some entry.2 else none) := by
  induction entries generalizing list with
  | nil => simp [insertAll]
  | cons entry entries ih =>
    obtain ⟨here, later⟩ := List.forall_mem_cons.mp solid
    have step : list.insertAll (entry :: entries) = (list.insert entry.1 entry.2).insertAll entries :=
      rfl
    rw [step, ih _ later, get?_insert list here, Option.or_assoc, List.findSome?_cons]
    by_cases same : key = joinSpaced entry.1.words
    · simp [same]
    · simp [same]

theorem longest_insert (list : Whitelist) (phrase replacement : Text) :
    list.longest ≤ (list.insert phrase replacement).longest ∧
      phrase.words.length ≤ (list.insert phrase replacement).longest := by
  rw [insert]
  by_cases empty : phrase.words.isEmpty = true
  · simp [List.isEmpty_iff.mp empty]
  · rw [if_neg empty]
    exact ⟨Nat.le_max_left .., Nat.le_max_right ..⟩

theorem longest_insertAll (list : Whitelist) (entries : List (Text × Text)) :
    list.longest ≤ (list.insertAll entries).longest ∧
      ∀ entry ∈ entries, entry.1.words.length ≤ (list.insertAll entries).longest := by
  induction entries generalizing list with
  | nil => simp [insertAll]
  | cons entry entries ih =>
    obtain ⟨grown, short⟩ := longest_insert list entry.1 entry.2
    obtain ⟨further, others⟩ := ih (list.insert entry.1 entry.2)
    exact ⟨Nat.le_trans grown further,
      List.forall_mem_cons.mpr ⟨Nat.le_trans short further, others⟩⟩

/-- Words that are looked up as a phrase and found. -/
structure Lists (list : Whitelist) (words : List Text) (replacement : Text) : Prop where
  nonempty : words ≠ []
  found : list.get? (joinSpaced words) = some replacement
  short : words.length ≤ list.longest

/-- The first entry of a phrase is listed. -/
theorem lists_of_parse {content : Text} (parsed : parse content direction = .ok list)
    {front back : List (Text × Text)}
    (entries : entriesOf direction content.lines = front ++ (phrase, replacement) :: back)
    (fresh : ∀ earlier ∈ front, earlier.1.words ≠ phrase.words) :
    list.Lists phrase.words replacement := by
  have all := addLines_eq_ok parsed
  have solid : ∀ entry ∈ entriesOf direction content.lines, ¬ entry.1.Blank :=
    not_blank_of_mem_entriesOf
  rw [entries] at all solid
  have here : (phrase, replacement) ∈ front ++ (phrase, replacement) :: back := by simp
  have nothing : front.findSome? (fun entry => if joinSpaced phrase.words =
      joinSpaced entry.1.words then some entry.2 else none) = none := by
    rw [List.findSome?_eq_none_iff]
    intro earlier member
    rw [if_neg (mt joinSpaced_words_inj.mp (Ne.symm (fresh earlier member)))]
  refine ⟨?_, ?_, ?_⟩
  · intro nothing
    exact solid _ here ((words_eq_nil_iff phrase).mp nothing)
  · rw [all, get?_insertAll empty solid, List.findSome?_append, nothing]
    simp [empty, get?]
  · rw [all]
    exact (longest_insertAll empty _).2 _ here

/-! Inputs that are a listed phrase. -/

theorem segmentsFrom_skip (list : Whitelist) (plain : List Text) {skip : Nat} {words : List Text}
    (all : words.length ≤ skip) : list.segmentsFrom plain skip words = plainSegment plain := by
  induction words generalizing skip with
  | nil => rw [segmentsFrom]
  | cons word words ih =>
    obtain ⟨fewer, rfl⟩ := Nat.exists_eq_add_of_le' (Nat.lt_of_lt_of_le (Nat.succ_pos _) all)
    rw [segmentsFrom]
    exact ih (Nat.le_of_succ_le_succ all)

/-- The whole phrase is the longest match. -/
theorem segments_of_lists {input : Text} (lists : list.Lists input.words replacement) :
    list.segments input = [.listed replacement] := by
  obtain ⟨nonempty, found, short⟩ := lists
  rw [segments]
  obtain ⟨word, rest, words⟩ := List.exists_cons_of_ne_nil nonempty
  rw [words] at found short ⊢
  have whole : min list.longest (rest.length + 1) = rest.length + 1 := Nat.min_eq_right short
  have longest : list.longestMatch? (word :: rest) (rest.length + 1) =
      some (rest.length + 1, replacement) := by
    have taken : (word :: rest).take (rest.length + 1) = word :: rest :=
      List.take_of_length_le (Nat.le_refl _)
    rw [longestMatch?, taken, found]
  rw [segmentsFrom, whole, longest]
  simp [plainSegment, segmentsFrom_skip]

theorem guard_of_lists {W : Type} [WeightScale W] {input : Text}
    (lists : list.Lists input.words replacement) (grammar : Grammar W) (n : Nat) :
    list.guard grammar input n = .ok (.single (nameToken replacement)
      (WeightScale.add WeightScale.zero WeightScale.zero)) := by
  have one : (max n 1) ≠ 0 := by omega
  have parts : answers? grammar n [.listed replacement] =
      .ok (some [.single (nameToken replacement) WeightScale.zero]) := rfl
  simp only [guard, segments_of_lists lists, parts, List.any_cons, isListed, Bool.true_or, if_true,
    bind, Except.bind, pure, Except.pure]
  obtain ⟨more, same⟩ := Nat.exists_eq_succ_of_ne_zero one
  simp [Lattice.combine, Lattice.concatenation, Lattice.substitutions, Lattice.ofPaths,
    Lattice.truncate, Lattice.single, Text.joinSpaced_cons, same]

/-- An input without a listed phrase is left to the grammar. -/
theorem guard_of_unlisted {W : Type} [WeightScale W] {input : Text}
    (unlisted : (list.segments input).any isListed = false) (grammar : Grammar W) (n : Nat) :
    list.guard grammar input n = grammar input n := by
  simp only [guard, unlisted, Bool.false_eq_true, if_false]

end Whitelist

end SpokenForm
