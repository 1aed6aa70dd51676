import SpokenForm.Proofs.Whitelist.Entries

/-! The segments of an input are its leftmost longest segmentation: from left to right, the longest
phrase that is listed is taken at a word where any is, and all other words stay together. -/
namespace SpokenForm.Whitelist

open Text

variable {entries : List (Text × Text)} {list : Whitelist}

/-- The replacement that the first entry of a phrase gives to its words. -/
def firstReplacement? (entries : List (Text × Text)) (words : List Text) : Option Text :=
  entries.findSome? fun entry => if entry.1.words = words then some entry.2 else none

/-- No phrase that is listed starts the words. -/
def Unlisted (entries : List (Text × Text)) (words : List Text) : Prop :=
  ∀ phrase, phrase ≠ [] → phrase <+: words → firstReplacement? entries phrase = none

/-- Words in segments. A phrase is replaced if no longer one starts where it does; words stay plain
if no phrase starts at any of them, and no plain segment follows another one. -/
inductive LeftmostLongest (entries : List (Text × Text)) : List Text → List Segment → Prop where
  | done : LeftmostLongest entries [] []
  | listed {phrase rest : List Text} {replacement : Text} {segments : List Segment}
      (nonempty : phrase ≠ []) (found : firstReplacement? entries phrase = some replacement)
      (longest : ∀ longer, longer <+: phrase ++ rest → phrase.length < longer.length →
        firstReplacement? entries longer = none)
      (later : LeftmostLongest entries rest segments) :
      LeftmostLongest entries (phrase ++ rest) (.listed replacement :: segments)
  | plain {words rest : List Text} {segments : List Segment} (nonempty : words ≠ [])
      (unlisted : ∀ back, back <:+ words → back ≠ [] → Unlisted entries (back ++ rest))
      (apart : ∀ text, segments.head? ≠ some (.plain text))
      (later : LeftmostLongest entries rest segments) :
      LeftmostLongest entries (words ++ rest) (.plain (joinSpaced words) :: segments)

/-- How a whitelist comes about, with the entries that it was given, in order. -/
inductive Built : List (Text × Text) → Whitelist → Prop where
  | nothing : Built [] empty
  | inserted {entries : List (Text × Text)} {list : Whitelist} (earlier : Built entries list)
      (phrase replacement : Text) :
      Built (entries ++ [(phrase, replacement)]) (list.insert phrase replacement)
  | parsed {content : Text} {direction : Direction} {list : Whitelist}
      (success : parse content direction = .ok list) :
      Built (entriesOf direction content.lines) list

/-! What a whitelist holds. -/

/-- A whitelist finds the first replacement of each phrase, and none of its phrases is too long. -/
structure Holds (list : Whitelist) (entries : List (Text × Text)) : Prop where
  found : ∀ words, words ≠ [] → (∀ word ∈ words, IsWord word) →
    list.get? (joinSpaced words) = firstReplacement? entries words
  short : ∀ entry ∈ entries, entry.1.words.length ≤ list.longest

theorem insert_of_blank {phrase : Text} (blank : phrase.words = []) (replacement : Text) :
    list.insert phrase replacement = list := by
  simp [insert, blank]

theorem Holds.insert (holds : list.Holds entries) (phrase replacement : Text) :
    (list.insert phrase replacement).Holds (entries ++ [(phrase, replacement)]) := by
  obtain ⟨grown, short⟩ := longest_insert list phrase replacement
  constructor
  · intro words nonempty each
    have before := holds.found words nonempty each
    rw [firstReplacement?, List.findSome?_append, ← firstReplacement?, ← before]
    by_cases blank : phrase.words = []
    · rw [insert_of_blank blank]
      simp [blank, Ne.symm nonempty]
    · have key : joinSpaced words = joinSpaced phrase.words ↔ phrase.words = words := by
        rw [← words_joinSpaced_words each, joinSpaced_words_inj, eq_comm]
      rw [get?_insert list (mt (words_eq_nil_iff phrase).mpr blank)]
      simp [key]
  · intro entry member
    rcases List.mem_append.mp member with earlier | last
    · exact Nat.le_trans (holds.short entry earlier) grown
    · obtain rfl := List.mem_singleton.mp last
      exact short

theorem Holds.insertAll (holds : list.Holds entries) (more : List (Text × Text)) :
    (list.insertAll more).Holds (entries ++ more) := by
  induction more generalizing list entries with
  | nil => simpa [Whitelist.insertAll] using holds
  | cons entry more ih => simpa [Whitelist.insertAll] using ih (holds.insert entry.1 entry.2)

theorem holds_empty : empty.Holds [] := ⟨fun _ _ _ => rfl, by simp⟩

theorem Built.holds (built : Built entries list) : list.Holds entries := by
  induction built with
  | nothing => exact holds_empty
  | inserted _ phrase replacement ih => exact ih.insert phrase replacement
  | parsed success =>
    rw [addLines_eq_ok success]
    exact holds_empty.insertAll _

/-- A phrase of more words than any that is listed is not listed. -/
theorem Holds.unlisted_of_long (holds : list.Holds entries) {phrase : List Text}
    (long : list.longest < phrase.length) : firstReplacement? entries phrase = none := by
  rw [firstReplacement?, List.findSome?_eq_none_iff]
  intro entry member
  have short := holds.short entry member
  have different : entry.1.words ≠ phrase := by
    rintro rfl
    omega
  exact if_neg different

/-! The longest phrase at a word. -/

theorem longestMatch?_eq_some {words : List Text} {length count : Nat} {replacement : Text}
    (matched : list.longestMatch? words length = some (count, replacement)) :
    0 < count ∧ count ≤ length ∧ list.get? (joinSpaced (words.take count)) = some replacement ∧
      ∀ longer, count < longer → longer ≤ length → list.get? (joinSpaced (words.take longer)) = none := by
  induction length with
  | zero => simp [longestMatch?] at matched
  | succ length ih =>
    rw [longestMatch?] at matched
    split at matched
    · rename_i found
      obtain ⟨rfl, rfl⟩ := Prod.mk.inj (Option.some.inj matched)
      exact ⟨Nat.succ_pos _, Nat.le_refl _, found, fun longer more bound => by omega⟩
    · rename_i missing
      obtain ⟨positive, bound, found, longest⟩ := ih matched
      refine ⟨positive, by omega, found, fun longer more within => ?_⟩
      rcases Nat.lt_or_eq_of_le within with shorter | rfl
      · exact longest longer more (by omega)
      · exact missing

theorem longestMatch?_eq_none {words : List Text} {length : Nat}
    (missing : list.longestMatch? words length = none) {count : Nat} (positive : 0 < count)
    (bound : count ≤ length) : list.get? (joinSpaced (words.take count)) = none := by
  induction length with
  | zero => omega
  | succ length ih =>
    rw [longestMatch?] at missing
    split at missing
    · cases missing
    · rename_i absent
      rcases Nat.lt_or_eq_of_le bound with shorter | rfl
      · exact ih missing (by omega)
      · exact absent

section

variable (holds : list.Holds entries) {words : List Text} (each : ∀ word ∈ words, IsWord word)
include holds each

theorem Holds.lookup {phrase : List Text} (nonempty : phrase ≠ []) (starts : phrase <+: words) :
    firstReplacement? entries phrase = list.get? (joinSpaced (words.take phrase.length)) := by
  rw [← List.prefix_iff_eq_take.mp starts]
  exact (holds.found phrase nonempty fun word member => each word (starts.subset member)).symm

/-- What is matched is the longest phrase that starts the words. -/
theorem Holds.matched {count : Nat} {replacement : Text}
    (matched : list.longestMatch? words (min list.longest words.length) = some (count, replacement)) :
    (words.take count).length = count ∧ 0 < count ∧
      firstReplacement? entries (words.take count) = some replacement ∧
      ∀ longer, longer <+: words → count < longer.length → firstReplacement? entries longer = none := by
  obtain ⟨positive, bound, found, longest⟩ := longestMatch?_eq_some matched
  have length : (words.take count).length = count := by
    rw [List.length_take]
    omega
  have nonempty : words.take count ≠ [] := List.ne_nil_of_length_pos (by omega)
  refine ⟨length, positive, ?_, fun longer starts more => ?_⟩
  · rw [holds.lookup each nonempty (List.take_prefix ..), length, found]
  · by_cases short : longer.length ≤ list.longest
    · have solid : longer ≠ [] := List.ne_nil_of_length_pos (by omega)
      rw [holds.lookup each solid starts]
      exact longest longer.length more (Nat.le_min.mpr ⟨short, starts.length_le⟩)
    · exact holds.unlisted_of_long (by omega)

/-- Where nothing is matched no phrase starts. -/
theorem Holds.unlisted
    (missing : list.longestMatch? words (min list.longest words.length) = none) :
    Unlisted entries words := by
  intro phrase nonempty starts
  by_cases short : phrase.length ≤ list.longest
  · rw [holds.lookup each nonempty starts]
    exact longestMatch?_eq_none missing (List.length_pos_iff.mpr nonempty)
      (Nat.le_min.mpr ⟨short, starts.length_le⟩)
  · exact holds.unlisted_of_long (by omega)

end

/-! Segments from left to right. -/

/-- Plain words that stand in front of segments. -/
theorem LeftmostLongest.plainSegment {plain words : List Text} {segments : List Segment}
    (unlisted : ∀ back, back <:+ plain.reverse → back ≠ [] → Unlisted entries (back ++ words))
    (apart : ∀ text, segments.head? ≠ some (.plain text))
    (later : LeftmostLongest entries words segments) :
    LeftmostLongest entries (plain.reverse ++ words) (plainSegment plain ++ segments) := by
  cases plain with
  | nil => exact later
  | cons word plain => exact .plain (by simp) unlisted apart later

/-- One more word behind plain ones. -/
theorem unlisted_reverse_cons {word : Text} {plain rest : List Text}
    (here : Unlisted entries (word :: rest))
    (unlisted : ∀ back, back <:+ plain.reverse → back ≠ [] → Unlisted entries (back ++ word :: rest)) :
    ∀ back, back <:+ (word :: plain).reverse → back ≠ [] → Unlisted entries (back ++ rest) := by
  intro back ends nonempty
  rw [List.reverse_cons, List.suffix_concat_iff] at ends
  rcases ends with rfl | ⟨front, rfl, ends⟩
  · exact absurd rfl nonempty
  · rw [List.append_assoc, List.singleton_append]
    by_cases first : front = []
    · rwa [first, List.nil_append]
    · exact unlisted front ends first

/-- Segments of the words behind a phrase already matched, with the plain words in front of them. -/
theorem Holds.leftmostLongest (holds : list.Holds entries) {words : List Text}
    (each : ∀ word ∈ words, IsWord word) (plain : List Text) (skip : Nat)
    (unlisted : ∀ back, back <:+ plain.reverse → back ≠ [] →
      Unlisted entries (back ++ words.drop skip)) :
    LeftmostLongest entries (plain.reverse ++ words.drop skip)
      (list.segmentsFrom plain skip words) := by
  induction words generalizing plain skip with
  | nil =>
    rw [List.drop_nil] at unlisted ⊢
    have last := LeftmostLongest.plainSegment unlisted (by simp) .done
    rwa [List.append_nil (plainSegment plain)] at last
  | cons word rest ih =>
    obtain ⟨-, others⟩ := List.forall_mem_cons.mp each
    cases skip with
    | succ skip => exact ih others plain skip unlisted
    | zero =>
      rw [segmentsFrom, List.drop_zero]
      split
      · rename_i count replacement matched
        obtain ⟨full, positive, found, longest⟩ := holds.matched each matched
        obtain ⟨more, rfl⟩ := Nat.exists_eq_add_of_le' positive
        have later := ih others [] more (by simp)
        have whole : (word :: rest).take (more + 1) ++ rest.drop more = word :: rest :=
          List.take_append_drop (more + 1) (word :: rest)
        have here := LeftmostLongest.listed (List.ne_nil_of_length_pos (by omega)) found
          (by rwa [List.reverse_nil, List.nil_append, whole, full]) later
        rw [List.reverse_nil, List.nil_append, whole] at here
        exact LeftmostLongest.plainSegment unlisted (by simp) here
      · rename_i missing
        have longer := ih others (word :: plain) 0
          (unlisted_reverse_cons (holds.unlisted each missing) unlisted)
        simpa using longer

/-! There is one such segmentation. -/

/-- No listed phrase starts where plain words do. -/
theorem firstReplacement?_of_plain {words phrase rest later : List Text} (nonempty : words ≠ [])
    (unlisted : ∀ back, back <:+ words → back ≠ [] → Unlisted entries (back ++ rest))
    (starts : phrase ≠ []) (same : words ++ rest = phrase ++ later) :
    firstReplacement? entries phrase = none := by
  refine unlisted words (List.suffix_refl _) nonempty phrase starts ?_
  rw [same]
  exact List.prefix_append ..

/-- Plain words cannot be divided: no segment starts within them. -/
theorem LeftmostLongest.eq_nil_of_within {front back rest : List Text} {segments : List Segment}
    (unlisted : ∀ ends, ends <:+ front ++ back → ends ≠ [] → Unlisted entries (ends ++ rest))
    (apart : ∀ text, segments.head? ≠ some (.plain text))
    (later : LeftmostLongest entries (back ++ rest) segments) : back = [] := by
  cases back with
  | nil => rfl
  | cons word back =>
    have within := unlisted (word :: back) (List.suffix_append ..) (List.cons_ne_nil _ _)
    generalize same : word :: back ++ rest = words at later within
    cases later with
    | done => cases same
    | listed starts found _ _ =>
      have absent := within _ starts (List.prefix_append ..)
      simp [found] at absent
    | plain _ _ _ _ => exact absurd rfl (apart _)

/-- What one segmentation takes as the longest phrase, another one does not make shorter. -/
theorem length_le_of_longest {first second rest later : List Text} {replacement : Text}
    (same : first ++ rest = second ++ later) (found : firstReplacement? entries second = some replacement)
    (longest : ∀ longer, longer <+: first ++ rest → first.length < longer.length →
      firstReplacement? entries longer = none) : second.length ≤ first.length := by
  refine Nat.le_of_not_lt fun shorter => ?_
  have absent := longest second (by rw [same]; exact List.prefix_append ..) (by omega)
  simp [found] at absent

theorem LeftmostLongest.unique {words others : List Text} {first second : List Segment}
    (one : LeftmostLongest entries words first) (other : LeftmostLongest entries others second)
    (same : words = others) : first = second := by
  induction one generalizing others second with
  | done =>
    cases other with
    | done => rfl
    | listed nonempty _ _ _ => simp [nonempty] at same
    | plain nonempty _ _ _ => simp [nonempty] at same
  | @listed phrase rest replacement segments nonempty found longest _ ih =>
    cases other with
    | done => simp [nonempty] at same
    | @listed phrase' rest' replacement' segments' _ found' longest' later' =>
      have lengths : phrase.length = phrase'.length := Nat.le_antisymm
        (length_le_of_longest same.symm found longest') (length_le_of_longest same found' longest)
      obtain ⟨rfl, rfl⟩ := List.append_inj same lengths
      obtain rfl := Option.some.inj (found.symm.trans found')
      rw [ih later' rfl]
    | plain nonempty' unlisted' _ _ =>
      have absent := firstReplacement?_of_plain nonempty' unlisted' nonempty same.symm
      simp [found] at absent
  | @plain words rest segments nonempty unlisted apart later ih =>
    cases other with
    | done => simp [nonempty] at same
    | listed nonempty' found' _ _ =>
      have absent := firstReplacement?_of_plain nonempty unlisted nonempty' same
      simp [found'] at absent
    | @plain words' rest' segments' nonempty' unlisted' apart' later' =>
      -- where one segment of plain words is longer, no segment can start in the rest of it
      rcases List.append_eq_append_iff.mp same with ⟨back, rfl, rfl⟩ | ⟨back, rfl, rfl⟩
      · obtain rfl := eq_nil_of_within unlisted' apart later
        simp [ih later' (List.nil_append _)]
      · obtain rfl := eq_nil_of_within unlisted apart' later'
        simp [ih later' (List.nil_append _).symm]

/-- However a whitelist has come about, the segments of an input are the one leftmost longest
segmentation of its words by the phrases of the entries. -/
theorem leftmostLongest_iff_segments (built : Built entries list) (input : Text)
    (segments : List Segment) :
    LeftmostLongest entries input.words segments ↔ list.segments input = segments := by
  have cut : LeftmostLongest entries input.words (list.segments input) :=
    built.holds.leftmostLongest (isWord_of_mem_words input) [] 0 (by simp)
  constructor
  · intro other
    exact cut.unique other rfl
  · rintro rfl
    exact cut

/-- A city, and a longer name that begins as it does; it is listed once more. -/
def cityEntries : List (Text × Text) :=
  [("new york".toList, "NY".toList), ("new  york city".toList, "NYC".toList),
    ("new york ".toList, "York".toList)]

def cities : Whitelist := empty.insertAll cityEntries

theorem built_cities : Built cityEntries cities :=
  ((Built.nothing.inserted _ _).inserted _ _).inserted _ _

/-- A journey, and its segments. -/
def journey : Text := "to new york  city and new york or york city".toList

def journeySegments : List Segment :=
  [.plain "to".toList, .listed "NYC".toList, .plain "and".toList, .listed "NY".toList,
    .plain "or york city".toList]

theorem leftmostLongest_iff_segments_journey :
    Built cityEntries cities ∧ cities.segments journey = journeySegments ∧
      LeftmostLongest cityEntries journey.words journeySegments := by
  have segments : cities.segments journey = journeySegments := by decide
  exact ⟨built_cities, segments,
    (leftmostLongest_iff_segments built_cities journey journeySegments).mpr segments⟩

end SpokenForm.Whitelist
