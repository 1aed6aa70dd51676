import SpokenForm.Proofs.Normalizer.Stages
import SpokenForm.Proofs.Whitelist.Entries

/-! Listed phrases from a whitelist to its normalizer. A text is composed before it is looked up, and
the phrases of a whitelist are not, so that an entry is found by its own phrase wherever composition
leaves the words of the phrase as they are. -/
namespace SpokenForm.Normalizer

variable {normalizer : Normalizer} {list : Whitelist} {text replacement : Text}
  {grammar : Grammar Weight}

/-! Texts that are composed already. -/

theorem prepare_eq_joinSpaced (text : Text) :
    prepare text = Text.joinSpaced (text.words.map Unicode.composed) := by
  rw [prepare, Text.words_composed]

theorem words_prepare (composed : ∀ word ∈ text.words, Unicode.composed word = word) :
    (prepare text).words = text.words := by
  have same : text.words.map Unicode.composed = text.words :=
    (List.map_congr_left composed).trans (List.map_id' _)
  rw [prepare_eq_joinSpaced, same, Text.words_joinSpaced_words (Text.isWord_of_mem_words text)]

/-- Before a grammar is asked, the text is found in the whitelist. -/
theorem tag_of_lists (lists : list.Lists text.words replacement)
    (composed : ∀ word ∈ text.words, Unicode.composed word = word)
    (guarded : normalizer.grammars.tagger = list.guard grammar)
    (direct : normalizer.preProcess = false) (n : Nat) :
    normalizer.tag (normalizer.taggerInput (prepare text)) n =
      .ok (.single (nameToken replacement) (WeightScale.add WeightScale.zero WeightScale.zero)) := by
  have input : normalizer.taggerInput (prepare text) = prepare text := by
    rw [taggerInput, direct, if_neg Bool.false_ne_true]
  rw [← words_prepare composed] at lists
  rw [input, tag, guarded, Whitelist.guard_of_lists lists]
  rfl

/-- A normalizer with a whitelist tags the phrase of an entry, however it is spaced, as the name that
replaces it, and goes on from there, whatever grammar the whitelist guards. The entry has to be the
first one with its phrase, and the words of the phrase have to be composed. -/
theorem listed_phrase_is_named (normalizer : Normalizer) {content : Text} {direction : Direction}
    (parsed : Whitelist.parse content direction = .ok list)
    {front back : List (Text × Text)} {phrase : Text}
    (entries : Whitelist.entriesOf direction content.lines =
      front ++ (phrase, replacement) :: back)
    (fresh : ∀ earlier ∈ front, earlier.1.words ≠ phrase.words)
    (composed : ∀ word ∈ phrase.words, Unicode.composed word = word)
    (guarded : normalizer.grammars.tagger = list.guard grammar)
    (direct : normalizer.preProcess = false) (spaced : text.words = phrase.words) :
    (∀ n, ∃ weight, normalizer.tag (normalizer.taggerInput (prepare text)) n =
      .ok (.single (nameToken replacement) weight)) ∧
    normalizer.tryNormalize text = (normalizer.verbalize (nameToken replacement)).map
      (fun answer => normalizer.finish (prepare text) answer.1) ∧
    ∀ detail, normalizer.normalizeDetailed text = .ok detail → detail.fellBack = false →
      detail.tagged? = some (nameToken replacement) := by
  rw [← spaced] at fresh composed
  have lists := Whitelist.lists_of_parse parsed entries (by rwa [← spaced])
  rw [← spaced] at lists
  have tagged := tag_of_lists lists composed guarded direct
  have solid : ¬ text.Blank := mt (Text.words_eq_nil_iff text).mpr lists.nonempty
  have answer := verbalized_of_tag (tagged 1)
  refine ⟨fun n => ⟨_, tagged n⟩, ?_, ?_⟩
  · rw [tryNormalize_eq_verbalized normalizer solid, answer]
    cases normalizer.verbalize (nameToken replacement) with
    | error fault => rfl
    | ok verbalized => rfl
  · intro detail success kept
    obtain ⟨found, answered, rfl⟩ := exists_concluded solid success kept
    rw [answer] at answered
    cases verbalized : normalizer.verbalize (nameToken replacement) with
    | error fault =>
      rw [verbalized] at answered
      cases answered
    | ok first =>
      rw [verbalized] at answered
      cases answered
      rfl

/-- A normalizer with a whitelist in front of a grammar that answers nothing. -/
def listedOnly (list : Whitelist) : Normalizer where
  direction := .normalize
  language := "en".toList
  grammars := ⟨list.guard fun _ _ => .ok .empty, listing fun _ => ["coffee".toList], none⟩
  budget := .standard
  preProcess := false
  postProcess := false

/-- A phrase and a longer one that is spaced widely, and whose replacement has to be escaped. -/
def drinks : Text := "Café\tcoffee\n\nCafé \u00A0 Noir\tblack \"coffee\"\n".toList

theorem listed_phrase_is_named_drinks :
    ∃ list weight, Whitelist.parse drinks .normalize = .ok list ∧
      (listedOnly list).tag ((listedOnly list).taggerInput (prepare "Café \u00A0 Noir".toList)) 1 =
        .ok (.single "tokens \x7b name: \"black \\\"coffee\\\"\" \x7d".toList weight) ∧
      (listedOnly list).tryNormalize "Café \u00A0 Noir".toList = .ok "coffee".toList := by
  have parsed : Whitelist.parse drinks .normalize = .ok
      ⟨[("Café".toList, "coffee".toList), ("Café Noir".toList, "black \"coffee\"".toList)], 2⟩ := by
    decide +kernel
  have entries : Whitelist.entriesOf .normalize drinks.lines =
      [("Café".toList, "coffee".toList)] ++
        ("Café \u00A0 Noir".toList, "black \"coffee\"".toList) :: [] := by decide +kernel
  have fresh : ∀ earlier ∈ [("Café".toList, "coffee".toList)],
      Text.words earlier.1 ≠ Text.words "Café \u00A0 Noir".toList := by decide
  have composed : ∀ word ∈ Text.words "Café \u00A0 Noir".toList, Unicode.composed word = word := by
    decide +kernel
  obtain ⟨tagged, tried, -⟩ :=
    listed_phrase_is_named (listedOnly _) parsed entries fresh composed rfl rfl rfl
  obtain ⟨weight, tagged⟩ := tagged 1
  refine ⟨_, weight, parsed, tagged, ?_⟩
  rw [tried]
  decide +kernel

/-- A phrase with a letter and its accent as two characters. -/
def decomposedPhrase : Whitelist := ⟨[("cafe\u0301".toList, "coffee house".toList)], 1⟩

/-- The text is composed before it is looked up, so that the phrase is not found in it. -/
theorem decomposed_phrase_is_missed :
    Whitelist.parse "cafe\u0301\tcoffee house".toList .normalize = .ok decomposedPhrase ∧
    Whitelist.entriesOf .normalize (Text.lines "cafe\u0301\tcoffee house".toList) =
      [("cafe\u0301".toList, "coffee house".toList)] ∧
    (listedOnly decomposedPhrase).preProcess = false ∧
    (listedOnly decomposedPhrase).tag
      ((listedOnly decomposedPhrase).taggerInput (prepare "cafe\u0301".toList)) 1 =
        .error (.noTaggingPath "café".toList) := by
  have input : (listedOnly decomposedPhrase).taggerInput (prepare "cafe\u0301".toList) =
      "café".toList := by decide +kernel
  have unlisted : (decomposedPhrase.segments "café".toList).any Whitelist.isListed = false := by
    decide +kernel
  have silent : (listedOnly decomposedPhrase).grammars.tagger "café".toList 1 = .ok .empty :=
    Whitelist.guard_of_unlisted unlisted _ 1
  refine ⟨by decide +kernel, by decide +kernel, rfl, ?_⟩
  rw [input, tag, silent]
  rfl

end SpokenForm.Normalizer
