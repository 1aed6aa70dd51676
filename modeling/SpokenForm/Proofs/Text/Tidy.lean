import Mathlib.Data.List.Chain
import SpokenForm.Proofs.Text

/-! Tidy texts, in which single spaces stand between other characters, and what is left of a text
without its white space or without its spaces. -/
namespace SpokenForm.Text

open Unicode

variable {text front back : Text}

def unspaced (text : Text) : Text := text.filter fun c => !isWhitespace c

@[simp] theorem unspaced_append (front back : Text) :
    unspaced (front ++ back) = unspaced front ++ unspaced back := List.filter_append ..

@[simp] theorem unspaced_space (text : Text) : unspaced (' ' :: text) = unspaced text :=
  List.filter_cons_of_neg (by simp [isWhitespace_space])

theorem unspaced_cons (c : Char) (text : Text) : unspaced (c :: text) = unspaced [c] ++ unspaced text :=
  unspaced_append [c] text

theorem unspaced_of_solid (solid : Solid text) : unspaced text = text :=
  List.filter_eq_self.mpr fun c member => by simp [solid c member]

/-- What is left are the words. -/
theorem flatten_words (text : Text) : (words text).flatten = unspaced text := by
  induction text using blank_induction with
  | solid text solid =>
    rw [words_of_solid solid, unspaced_of_solid solid]
    by_cases empty : text = []
    · simp [empty]
    · simp [empty]
  | blank front c rest solid space ih =>
    have nothing : unspaced [c] = [] := by simp [unspaced, space]
    rw [words_append_blank front space, List.flatten_append, ih, unspaced_append, unspaced_cons,
      nothing, words_of_solid solid, unspaced_of_solid solid]
    by_cases empty : front = []
    · simp [empty]
    · simp [empty]

def spaceless (text : Text) : Text := text.filter (· ≠ ' ')

@[simp] theorem spaceless_nil : spaceless [] = [] := rfl

@[simp] theorem spaceless_append (front back : Text) :
    spaceless (front ++ back) = spaceless front ++ spaceless back := List.filter_append ..

@[simp] theorem spaceless_reverse (text : Text) : spaceless text.reverse = (spaceless text).reverse :=
  List.filter_reverse ..

@[simp] theorem spaceless_space (text : Text) : spaceless (' ' :: text) = spaceless text :=
  List.filter_cons_of_neg (by simp)

theorem spaceless_cons_of_ne {c : Char} (solid : c ≠ ' ') (text : Text) :
    spaceless (c :: text) = c :: spaceless text :=
  List.filter_cons_of_pos (by simpa using solid)

theorem spaceless_cons (c : Char) (text : Text) :
    spaceless (c :: text) = spaceless [c] ++ spaceless text :=
  spaceless_append [c] text

theorem unspaced_spaceless (text : Text) : unspaced (spaceless text) = unspaced text := by
  rw [unspaced, spaceless, List.filter_filter]
  apply List.filter_congr
  intro c _
  by_cases space : c = ' '
  · simp [space, isWhitespace_space]
  · simp [space]

theorem solid_spaceless_iff : Solid (spaceless text) ↔ OnlySpaces text := by
  constructor
  · intro solid c member white
    by_contra other
    simp [solid c (List.mem_filter.mpr ⟨member, by simpa using other⟩)] at white
  · intro only c member
    obtain ⟨inside, other⟩ := List.mem_filter.mp member
    by_contra white
    simp [only c inside (by simpa using white)] at other

theorem count_spaceless {c : Char} (solid : c ≠ ' ') (text : Text) :
    (spaceless text).count c = text.count c :=
  List.count_filter (by simpa using solid)

theorem count_eq_of_spaceless {other : Text} (same : spaceless other = spaceless text) {c : Char}
    (solid : c ≠ ' ') : other.count c = text.count c := by
  rw [← count_spaceless solid, same, count_spaceless solid]

/-- Spaces stand alone between other characters. -/
structure SingleSpaced (text : Text) : Prop where
  starts : text.head? ≠ some ' '
  ends : text.getLast? ≠ some ' '
  apart : text.IsChain fun c next => ¬ (c = ' ' ∧ next = ' ')

theorem SingleSpaced.nil : SingleSpaced [] := ⟨by simp, by simp, .nil⟩

theorem Solid.ne_space (solid : Solid text) : ∀ c ∈ text, c ≠ ' ' := by
  rintro c member rfl
  exact Bool.false_ne_true ((solid ' ' member).symm.trans isWhitespace_space)

theorem Solid.singleSpaced (solid : Solid text) : SingleSpaced text := by
  refine ⟨?_, ?_, ?_⟩
  · intro first
    exact solid.ne_space ' ' (List.mem_of_head? first) rfl
  · intro last
    exact solid.ne_space ' ' (List.mem_of_getLast? last) rfl
  · apply List.Pairwise.isChain
    rw [List.pairwise_iff_forall_sublist]
    rintro c next pair ⟨rfl, -⟩
    exact solid.ne_space ' ' (pair.mem List.mem_cons_self) rfl

theorem SingleSpaced.reverse (single : SingleSpaced text) : SingleSpaced text.reverse := by
  refine ⟨?_, ?_, ?_⟩
  · rw [List.head?_reverse]
    exact single.ends
  · rw [List.getLast?_reverse]
    exact single.starts
  · rw [List.isChain_reverse]
    exact single.apart.imp fun c next apart both => apart both.symm

theorem SingleSpaced.append (first : SingleSpaced front) (second : SingleSpaced back) :
    SingleSpaced (front ++ back) := by
  refine ⟨?_, ?_, ?_⟩
  · cases front with
    | nil => exact second.starts
    | cons c front => exact first.starts
  · rw [List.getLast?_append]
    cases found : back.getLast? with
    | none => exact first.ends
    | some c =>
      have ends := second.ends
      rwa [found] at ends
  · refine List.isChain_append.mpr ⟨first.apart, second.apart, ?_⟩
    rintro c last next - ⟨rfl, -⟩
    exact first.ends last

/-- A space may stand between two such texts, and nowhere else. -/
theorem singleSpaced_append_space_iff :
    SingleSpaced (front ++ ' ' :: back) ↔
      (front ≠ [] ∧ SingleSpaced front) ∧ back ≠ [] ∧ SingleSpaced back := by
  constructor
  · rintro ⟨starts, ends, apart⟩
    obtain ⟨first, later, link⟩ := List.isChain_append.mp apart
    obtain ⟨next, second⟩ := List.isChain_cons.mp later
    refine ⟨⟨?_, ?_, ?_, first⟩, ?_, ?_, ?_, second⟩
    · rintro rfl
      exact starts rfl
    · intro begins
      cases front with
      | nil => cases begins
      | cons c front => exact starts begins
    · intro last
      exact link ' ' last ' ' rfl ⟨rfl, rfl⟩
    · rintro rfl
      exact ends (by simp)
    · intro begins
      exact next ' ' begins ⟨rfl, rfl⟩
    · intro last
      rw [List.getLast?_append, List.getLast?_cons, last] at ends
      exact ends rfl
  · rintro ⟨⟨nonemptyFront, first⟩, nonemptyBack, second⟩
    refine ⟨?_, ?_, ?_⟩
    · rw [List.head?_append_of_ne_nil _ nonemptyFront]
      exact first.starts
    · rw [List.getLast?_append, List.getLast?_cons, List.getLast?_eq_some_getLast nonemptyBack]
      have ends := second.ends
      rwa [List.getLast?_eq_some_getLast nonemptyBack] at ends
    · refine List.isChain_append.mpr ⟨first.apart, List.isChain_cons.mpr ⟨?_, second.apart⟩, ?_⟩
      · rintro next found ⟨-, rfl⟩
        exact second.starts found
      · rintro c last next - ⟨rfl, -⟩
        exact first.ends last

/-- Where no space stands, spaces stand alone in two texts together just when they do in each. -/
theorem singleSpaced_append_iff (ends : front.getLast? ≠ some ' ') (starts : back.head? ≠ some ' ') :
    SingleSpaced (front ++ back) ↔ SingleSpaced front ∧ SingleSpaced back := by
  constructor
  · intro whole
    obtain ⟨first, second, -⟩ := List.isChain_append.mp whole.apart
    refine ⟨⟨?_, ends, first⟩, starts, ?_, second⟩
    · intro begins
      exact whole.starts (by simp [List.head?_append, begins])
    · intro last
      exact whole.ends (by simp [List.getLast?_append, last])
  · rintro ⟨first, second⟩
    exact first.append second

/-- There is no white space but single spaces between other characters. -/
structure Tidy (text : Text) : Prop where
  onlySpaces : OnlySpaces text
  starts : text.head? ≠ some ' '
  ends : text.getLast? ≠ some ' '
  apart : text.IsChain fun c next => ¬ (c = ' ' ∧ next = ' ')

theorem tidy_iff : Tidy text ↔ OnlySpaces text ∧ SingleSpaced text :=
  ⟨fun ⟨only, starts, ends, apart⟩ => ⟨only, starts, ends, apart⟩,
    fun ⟨only, starts, ends, apart⟩ => ⟨only, starts, ends, apart⟩⟩

theorem Tidy.nil : Tidy [] := tidy_iff.mpr ⟨by simp [OnlySpaces], .nil⟩

theorem Solid.tidy (solid : Solid text) : Tidy text :=
  tidy_iff.mpr ⟨solid.onlySpaces, solid.singleSpaced⟩

theorem Tidy.append (first : Tidy front) (second : Tidy back) : Tidy (front ++ back) := by
  obtain ⟨onlyFront, singleFront⟩ := tidy_iff.mp first
  obtain ⟨onlyBack, singleBack⟩ := tidy_iff.mp second
  exact tidy_iff.mpr ⟨List.forall_mem_append.mpr ⟨onlyFront, onlyBack⟩, singleFront.append singleBack⟩

/-- A space may stand between two tidy texts, and nowhere else. -/
theorem tidy_append_space_iff :
    Tidy (front ++ ' ' :: back) ↔ (front ≠ [] ∧ Tidy front) ∧ back ≠ [] ∧ Tidy back := by
  have only : OnlySpaces (front ++ ' ' :: back) ↔ OnlySpaces front ∧ OnlySpaces back := by
    rw [← solid_spaceless_iff, ← solid_spaceless_iff, ← solid_spaceless_iff, spaceless_append,
      spaceless_space]
    exact List.forall_mem_append
  rw [tidy_iff, tidy_iff, tidy_iff, only, singleSpaced_append_space_iff]
  tauto

end SpokenForm.Text
