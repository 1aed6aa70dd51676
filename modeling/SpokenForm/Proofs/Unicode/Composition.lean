import SpokenForm.Proofs.Text
import SpokenForm.Proofs.Unicode.Whitespace
import SpokenForm.Unicode.Composition

/-! Canonical composition word by word. White space decomposes into white space only, starts a sequence
and takes part in no composite, so that nothing is ordered or composed across it: the words of a
composed text are its words, each composed. -/
namespace SpokenForm

namespace Unicode

open Text (Solid)

/-- The code point of a white space character. -/
def BlankCode (code : Nat) : Prop := whitespaceRanges.contains code = true

theorem BlankCode.bounds {code : Nat} (blank : BlankCode code) :
    code ≤ 0xA0 ∨ 0x1680 ≤ code ∧ code ≤ 0x3000 := by
  obtain ⟨range, member, begun, within⟩ := mem_of_ranges_contains blank
  have low : ∀ range ∈ whitespaceRanges, range.2 ≤ 0xA0 ∨ 0x1680 ≤ range.1 ∧ range.2 ≤ 0x3000 := by
    decide
  have := low range member
  omega

theorem not_blankCode {code : Nat} (outside : ¬ (code ≤ 0xA0 ∨ 0x1680 ≤ code ∧ code ≤ 0x3000)) :
    ¬ BlankCode code :=
  fun blank => outside blank.bounds

/-! The tables: white space stands for white space, and is in no other entry. -/

theorem exclusions_solid : ∀ entry ∈ exclusions, whitespaceRanges.contains entry.1 = false ∧
    ∀ code ∈ entry.2, whitespaceRanges.contains code = false := by
  decide

theorem substitutes_alike : ∀ run ∈ substitutes, ∀ entry ∈ run.2.zipIdx,
    whitespaceRanges.contains entry.1 = whitespaceRanges.contains (run.1 + entry.2) := by
  decide +kernel

theorem composites_solid : ∀ entry ∈ composites, whitespaceRanges.contains entry.1 = false ∧
    ∀ pair ∈ entry.2, whitespaceRanges.contains pair.1 = false ∧
      whitespaceRanges.contains pair.2 = false := by
  decide +kernel

theorem combiningClass_of_blank {code : Nat} (blank : BlankCode code) : combiningClass code = 0 :=
  forall_whitespace (P := fun code => combiningClass code = 0) (by decide +kernel) blank

theorem mem_of_lookup {α β : Type} [BEq α] [LawfulBEq α] {key : α} {value : β}
    {entries : List (α × β)} (found : entries.lookup key = some value) : (key, value) ∈ entries := by
  obtain ⟨front, back, rfl, -⟩ := List.lookup_eq_some_iff.mp found
  simp

theorem exclusions_solid_of_lookup {code : Nat} {members : List Nat}
    (excluded : exclusions.lookup code = some members) :
    ¬ BlankCode code ∧ ∀ member ∈ members, ¬ BlankCode member := by
  obtain ⟨solid, solidMembers⟩ := exclusions_solid _ (mem_of_lookup excluded)
  exact ⟨Bool.eq_false_iff.mp solid, fun member inside =>
    Bool.eq_false_iff.mp (solidMembers member inside)⟩

/-! Decomposition, one character at a time. -/

theorem Hangul.decompose?_solid {code : Nat} {letters : List Nat}
    (syllable : decompose? code = some letters) :
    ¬ BlankCode code ∧ ∀ letter ∈ letters, ¬ BlankCode letter := by
  unfold decompose? at syllable
  split at syllable
  · rename_i inside
    simp only [Bool.and_eq_true, decide_eq_true_eq] at inside
    simp only [firstSyllable, leadCount, vowelCount, tailCount] at inside
    have lead : ¬ BlankCode (firstLead + (code - firstSyllable) / (vowelCount * tailCount)) := by
      simp only [firstLead, firstSyllable, vowelCount, tailCount]
      exact not_blankCode (by omega)
    have vowel : ¬ BlankCode
        (firstVowel + (code - firstSyllable) % (vowelCount * tailCount) / tailCount) := by
      simp only [firstVowel, firstSyllable, vowelCount, tailCount]
      exact not_blankCode (by omega)
    have tail : ¬ BlankCode (noTail + (code - firstSyllable) % tailCount) := by
      simp only [noTail, firstSyllable, tailCount]
      exact not_blankCode (by omega)
    obtain rfl := Option.some.inj syllable
    refine ⟨not_blankCode (by omega), ?_⟩
    split
    · simpa using ⟨lead, vowel⟩
    · simpa using ⟨lead, vowel, tail⟩
  · cases syllable

theorem blankCode_substitute {code equivalent : Nat} (stands : substitute? code = some equivalent) :
    BlankCode equivalent ↔ BlankCode code := by
  obtain ⟨⟨first, equivalents⟩, member, found⟩ := List.exists_of_findSome?_eq_some stands
  simp only at found
  split at found
  · rename_i begun
    have placed : (equivalent, code - first) ∈ equivalents.zipIdx :=
      List.mem_zipIdx_iff_getElem?.mpr found
    have same := substitutes_alike _ member _ placed
    rw [Nat.add_sub_cancel' begun] at same
    rw [BlankCode, BlankCode, same]
  · cases found

theorem parts?_solid {code first second : Nat} (parts : parts? code = some (first, second)) :
    ¬ BlankCode code ∧ ¬ BlankCode first ∧ ¬ BlankCode second := by
  obtain ⟨⟨key, pairs⟩, member, inner⟩ := List.exists_of_findSome?_eq_some parts
  obtain ⟨⟨base, composite⟩, among, found⟩ := List.exists_of_findSome?_eq_some inner
  obtain ⟨solidKey, solidPairs⟩ := composites_solid _ member
  obtain ⟨solidBase, solidComposite⟩ := solidPairs _ among
  simp only at found
  split at found
  · rename_i same
    obtain ⟨rfl, rfl⟩ := Prod.mk.inj (Option.some.inj found)
    subst same
    exact ⟨Bool.eq_false_iff.mp solidComposite, Bool.eq_false_iff.mp solidBase,
      Bool.eq_false_iff.mp solidKey⟩
  · cases found

/-- White space decomposes into one character of white space. -/
theorem decompose_of_blank (depth : Nat) {code : Nat} (blank : BlankCode code) :
    ∃ other, decompose depth code = [other] ∧ BlankCode other := by
  unfold decompose
  split
  · exact ⟨code, rfl, blank⟩
  · cases syllable : Hangul.decompose? code with
    | some letters => exact absurd blank (Hangul.decompose?_solid syllable).1
    | none =>
      cases excluded : exclusions.lookup code with
      | some members => exact absurd blank (exclusions_solid_of_lookup excluded).1
      | none =>
        cases stands : substitute? code with
        | some equivalent => exact ⟨equivalent, rfl, (blankCode_substitute stands).mpr blank⟩
        | none =>
          cases parts : parts? code with
          | none => exact ⟨code, by cases depth <;> rfl, blank⟩
          | some pair => exact absurd blank (parts?_solid parts).1

theorem decompose_of_solid (depth : Nat) {code : Nat} (solid : ¬ BlankCode code) :
    ∀ part ∈ decompose depth code, ¬ BlankCode part := by
  fun_induction decompose depth code with
  | case1 depth code low => exact List.forall_mem_singleton.mpr solid
  | case2 depth code low letters syllable => exact (Hangul.decompose?_solid syllable).2
  | case3 depth code low syllable members excluded =>
    exact (exclusions_solid_of_lookup excluded).2
  | case4 depth code low syllable excluded equivalent stands =>
    exact List.forall_mem_singleton.mpr (mt (blankCode_substitute stands).mp solid)
  | case5 code low syllable excluded stands depth first second parts ih =>
    obtain ⟨-, solidFirst, solidSecond⟩ := parts?_solid parts
    exact List.forall_mem_append.mpr ⟨ih solidFirst, List.forall_mem_singleton.mpr solidSecond⟩
  | case6 depth code low syllable excluded stands whole =>
    exact List.forall_mem_singleton.mpr solid

theorem decompose_ne_nil (depth code : Nat) : decompose depth code ≠ [] := by
  fun_induction decompose depth code with
  | case1 => simp
  | case2 depth code low letters syllable =>
    unfold Hangul.decompose? at syllable
    split at syllable
    · obtain rfl := Option.some.inj syllable
      split <;> simp
    · cases syllable
  | case3 depth code low syllable members excluded =>
    have filled : ∀ entry ∈ exclusions, entry.2 ≠ [] := by decide
    exact filled _ (mem_of_lookup excluded)
  | case4 => simp
  | case5 => simp
  | case6 => simp

/-! Ordering of marks. -/

theorem insertMark_perm (mark : Nat) (run : List Nat) : (insertMark mark run).Perm (mark :: run) := by
  induction run with
  | nil => exact .refl _
  | cons other rest ih =>
    unfold insertMark
    split
    · exact (ih.cons other).trans (.swap mark other rest)
    · exact .refl _

theorem orderMarks_perm (run codes : List Nat) : (orderMarks run codes).Perm (run ++ codes) := by
  induction codes generalizing run with
  | nil => simp [orderMarks]
  | cons code rest ih =>
    unfold orderMarks
    split
    · exact run.reverse_perm.append ((ih []).cons code)
    · refine (ih _).trans (((insertMark_perm code run).append_right rest).trans ?_)
      exact (List.perm_middle).symm

theorem orderMarks_append_starter (run front : List Nat) {code : Nat}
    (starter : combiningClass code = 0) (rest : List Nat) :
    orderMarks run (front ++ code :: rest) = orderMarks run front ++ code :: orderMarks [] rest := by
  induction front generalizing run with
  | nil => simp [orderMarks, starter]
  | cons other front ih =>
    rw [List.cons_append, orderMarks, orderMarks]
    split
    · rw [ih, List.append_assoc, List.cons_append]
    · exact ih _

/-! Composition, up to a white space and behind it. -/

theorem Hangul.compose?_solid {first second composite : Nat}
    (composes : compose? first second = some composite) :
    ¬ BlankCode first ∧ ¬ BlankCode second ∧ ¬ BlankCode composite := by
  unfold compose? at composes
  simp only [Bool.and_eq_true, decide_eq_true_eq] at composes
  split at composes
  · rename_i inside
    obtain rfl := Option.some.inj composes
    simp only [firstLead, leadCount, firstVowel, vowelCount] at inside
    simp only [firstSyllable]
    exact ⟨not_blankCode (by omega), not_blankCode (by omega), not_blankCode (by omega)⟩
  · split at composes
    · rename_i inside
      obtain rfl := Option.some.inj composes
      simp only [firstSyllable, noTail, tailCount] at inside ⊢
      exact ⟨not_blankCode (by omega), not_blankCode (by omega), not_blankCode (by omega)⟩
    · cases composes

theorem compose?_solid {first second composite : Nat}
    (composes : compose? first second = some composite) :
    ¬ BlankCode first ∧ ¬ BlankCode second ∧ ¬ BlankCode composite := by
  unfold compose? at composes
  split at composes
  · rename_i syllable found
    obtain rfl := Option.some.inj composes
    exact Hangul.compose?_solid found
  · split at composes
    · cases composes
    · obtain ⟨pairs, listed, found⟩ := Option.bind_eq_some_iff.mp composes
      obtain ⟨solidSecond, solidPairs⟩ := composites_solid _ (mem_of_lookup listed)
      obtain ⟨solidFirst, solidComposite⟩ := solidPairs _ (mem_of_lookup found)
      exact ⟨Bool.eq_false_iff.mp solidFirst, Bool.eq_false_iff.mp solidSecond,
        Bool.eq_false_iff.mp solidComposite⟩

theorem compose?_of_blank {first second : Nat} (blank : BlankCode first ∨ BlankCode second) :
    compose? first second = none := by
  rw [Option.eq_none_iff_forall_ne_some]
  intro composite composes
  obtain ⟨solidFirst, solidSecond, -⟩ := compose?_solid composes
  rcases blank with blankFirst | blankSecond
  · exact solidFirst blankFirst
  · exact solidSecond blankSecond

/-- Nothing composes with a white space in front. -/
theorem composeFrom_of_blank {code : Nat} (blank : BlankCode code) (kept rest : List Nat) :
    composeFrom code kept rest = code :: kept.reverse ++ composeAll rest := by
  induction rest generalizing kept with
  | nil => simp [composeFrom, composeAll]
  | cons next rest ih =>
    rw [composeFrom.eq_def, composeAll]
    simp only [compose?_of_blank (.inl blank), ite_self]
    split
    · rfl
    · simp [ih]

theorem composeFrom_append_blank (starter : Nat) (kept front : List Nat) {code : Nat}
    (blank : BlankCode code) (rest : List Nat) :
    composeFrom starter kept (front ++ code :: rest) =
      composeFrom starter kept front ++ code :: composeAll rest := by
  induction front generalizing starter kept with
  | nil =>
    -- The white space ends what came before it, and composition starts anew behind it.
    rw [List.nil_append, composeFrom.eq_def]
    simp only [compose?_of_blank (.inr blank), ite_self, combiningClass_of_blank blank,
      if_true, composeFrom_of_blank blank]
    simp [composeFrom]
  | cons next front ih =>
    rw [List.cons_append, composeFrom.eq_def, composeFrom.eq_def starter kept (next :: front)]
    simp only
    split
    · exact ih _ _
    · split
      · rw [ih, List.append_assoc]
      · exact ih _ _

theorem composeAll_append_blank (front : List Nat) {code : Nat} (blank : BlankCode code)
    (rest : List Nat) :
    composeAll (front ++ code :: rest) = composeAll front ++ code :: composeAll rest := by
  induction front with
  | nil => simp [composeAll, combiningClass_of_blank blank, composeFrom_of_blank blank]
  | cons next front ih =>
    rw [List.cons_append, composeAll, composeAll]
    split
    · exact composeFrom_append_blank next [] front blank rest
    · rw [ih, List.cons_append]

theorem composeFrom_of_solid {starter : Nat} {kept rest : List Nat} (solid : ¬ BlankCode starter)
    (marks : ∀ code ∈ kept, ¬ BlankCode code) (behind : ∀ code ∈ rest, ¬ BlankCode code) :
    ∀ code ∈ composeFrom starter kept rest, ¬ BlankCode code := by
  induction rest generalizing starter kept with
  | nil => simpa [composeFrom] using ⟨solid, marks⟩
  | cons next rest ih =>
    obtain ⟨here, later⟩ := List.forall_mem_cons.mp behind
    rw [composeFrom.eq_def]
    simp only
    split
    · rename_i composite composes
      obtain ⟨-, composes⟩ := Option.ite_none_left_eq_some.mp composes
      exact ih (compose?_solid composes).2.2 marks later
    · split
      · rw [List.forall_mem_append]
        exact ⟨by simpa using ⟨solid, marks⟩, ih here (by simp) later⟩
      · exact ih solid (List.forall_mem_cons.mpr ⟨here, marks⟩) later

theorem composeAll_of_solid {codes : List Nat} (solid : ∀ code ∈ codes, ¬ BlankCode code) :
    ∀ code ∈ composeAll codes, ¬ BlankCode code := by
  induction codes with
  | nil => simp [composeAll]
  | cons code rest ih =>
    obtain ⟨here, later⟩ := List.forall_mem_cons.mp solid
    rw [composeAll]
    split
    · exact composeFrom_of_solid here (by simp) later
    · exact List.forall_mem_cons.mpr ⟨here, ih later⟩

/-! Composed texts. -/

theorem isWhitespace_ofNat_iff (code : Nat) :
    isWhitespace (Char.ofNat code) = true ↔ BlankCode code := by
  by_cases valid : code.isValidChar
  · rw [isWhitespace, Char.ofNat, dif_pos valid]
    rfl
  · have high : 0x3000 < code := Nat.lt_of_not_le fun low => valid (.inl (by omega))
    rw [isWhitespace, Char.ofNat, dif_neg valid]
    exact iff_of_false (by decide) (not_blankCode (by omega))

theorem composed_append_blank (front : Text) {c : Char} (space : isWhitespace c = true)
    (rest : Text) : ∃ other, isWhitespace other = true ∧
      composed (front ++ c :: rest) = composed front ++ other :: composed rest := by
  obtain ⟨other, single, blank⟩ := decompose_of_blank 3 space
  refine ⟨Char.ofNat other, (isWhitespace_ofNat_iff other).mpr blank, ?_⟩
  rw [composed, List.flatMap_append, List.flatMap_cons, single, List.singleton_append,
    orderMarks_append_starter [] _ (combiningClass_of_blank blank), composeAll_append_blank _ blank,
    List.map_append, List.map_cons]
  rfl

theorem composed_of_solid {text : Text} (solid : Solid text) : Solid (composed text) := by
  have parts : ∀ part ∈ text.flatMap fun c => decompose 3 c.toNat, ¬ BlankCode part := by
    rw [List.forall_mem_flatMap]
    intro c member
    exact decompose_of_solid 3 (Bool.eq_false_iff.mp (solid c member))
  have ordered : ∀ code ∈ orderMarks [] (text.flatMap fun c => decompose 3 c.toNat),
      ¬ BlankCode code := by
    intro code member
    exact parts code ((orderMarks_perm [] _).mem_iff.mp member)
  rw [Solid, composed, List.forall_mem_map]
  intro code member
  rw [Bool.eq_false_iff]
  exact mt (isWhitespace_ofNat_iff code).mp (composeAll_of_solid ordered code member)

theorem composeFrom_ne_nil (starter : Nat) (kept rest : List Nat) :
    composeFrom starter kept rest ≠ [] := by
  induction rest generalizing starter kept with
  | nil => simp [composeFrom]
  | cons next rest ih =>
    rw [composeFrom.eq_def]
    simp only
    split
    · exact ih _ _
    · split
      · simp
      · exact ih _ _

theorem composed_eq_nil_iff (text : Text) : composed text = [] ↔ text = [] := by
  constructor
  · intro nothing
    have ordered : orderMarks [] (text.flatMap fun c => decompose 3 c.toNat) = [] := by
      cases codes : orderMarks [] (text.flatMap fun c => decompose 3 c.toNat) with
      | nil => rfl
      | cons code rest =>
        rw [composed, codes, composeAll, List.map_eq_nil_iff] at nothing
        split at nothing
        · exact absurd nothing (composeFrom_ne_nil code [] rest)
        · cases nothing
    have parts : text.flatMap (fun c => decompose 3 c.toNat) = [] := by
      have perm := orderMarks_perm [] (text.flatMap fun c => decompose 3 c.toNat)
      rw [ordered] at perm
      exact perm.symm.eq_nil
    cases text with
    | nil => rfl
    | cons c rest =>
      rw [List.flatMap_cons, List.append_eq_nil_iff] at parts
      exact absurd parts.1 (decompose_ne_nil 3 c.toNat)
  · rintro rfl
    rfl

end Unicode

namespace Text

theorem words_composed_of_solid {text : Text} (solid : Solid text) :
    words (Unicode.composed text) = (words text).map Unicode.composed := by
  rw [words_of_solid (Unicode.composed_of_solid solid), words_of_solid solid]
  by_cases empty : text = []
  · simp [empty, (Unicode.composed_eq_nil_iff []).mpr]
  · simp [empty, Unicode.composed_eq_nil_iff]

/-- Composition goes word by word. -/
theorem words_composed (text : Text) :
    words (Unicode.composed text) = (words text).map Unicode.composed := by
  induction text using blank_induction with
  | solid text solid => exact words_composed_of_solid solid
  | blank front c rest solid space ih =>
    obtain ⟨other, blank, same⟩ := Unicode.composed_append_blank front space rest
    rw [same, words_append_blank _ blank, words_append_blank front space, List.map_append, ih,
      words_composed_of_solid solid]

/-- Composition leaves a text blank, or not blank. -/
theorem composed_blank_iff (text : Text) : Blank (Unicode.composed text) ↔ Blank text := by
  rw [← words_eq_nil_iff, ← words_eq_nil_iff, words_composed, List.map_eq_nil_iff]

end Text

end SpokenForm
