import SpokenForm.Proofs.Normalizer.Verbalization
import SpokenForm.Proofs.Unicode.Composition

/-! Outcomes of a normalization. A failure is traced to the step that failed, which settles whether
the text may stand in for its normalization; every way to normalize a text follows from this. -/
namespace SpokenForm

namespace NormalizationError

/-- Failures behind the tagger: the text then stands in for its normalization. -/
inductive Tolerated : NormalizationError → Prop where
  | parse (tagged : Text) (cause : ParseError) : Tolerated (.parse tagged cause)
  | exhausted (chunk : Text) : Tolerated (.exhausted chunk)
  | verbalization (serialized : Text) (cause : GrammarError) :
    Tolerated (.verbalization serialized cause)

/-- Failures of the tagger, and tokens that no budget allows: they are passed on. -/
inductive Fatal : NormalizationError → Prop where
  | tagging (input : Text) (cause : GrammarError) : Fatal (.tagging input cause)
  | noTaggingPath (input : Text) : Fatal (.noTaggingPath input)
  | configuration (cause : ConfigurationError) : Fatal (.configuration cause)

theorem Tolerated.isRecoverable {fault : NormalizationError} (tolerated : fault.Tolerated) :
    fault.isRecoverable = true := by
  cases tolerated <;> rfl

theorem Fatal.isRecoverable {fault : NormalizationError} (fatal : fault.Fatal) :
    fault.isRecoverable = false := by
  cases fatal <;> rfl

theorem Fatal.not_tolerated {fault : NormalizationError} (fatal : fault.Fatal) :
    ¬ fault.Tolerated := by
  intro tolerated
  have both := fatal.isRecoverable.symm.trans tolerated.isRecoverable
  cases both

end NormalizationError

namespace Normalizer

open NormalizationError

/-! Blank texts. -/

/-- Nothing is left of a text just when it is blank. -/
theorem prepare_eq_nil_iff (text : Text) : prepare text = [] ↔ text.Blank := by
  rw [prepare, Text.joinSpaced_eq_nil_iff (Text.isWord_of_mem_words _), Text.words_eq_nil_iff]
  exact Text.composed_blank_iff text

theorem prepare_ne_nil {text : Text} (solid : ¬ text.Blank) : prepare text ≠ [] :=
  fun nothing => solid ((prepare_eq_nil_iff text).mp nothing)

/-! The steps that can fail. -/

variable {normalizer : Normalizer}

/-- How the verbalization of a tagged text fails. -/
inductive VerbalizationFails (normalizer : Normalizer) (tagged : Text) : NormalizationError → Prop
  | parse {cause : ParseError} (failed : TaggedText.parse tagged = .error cause) :
    VerbalizationFails normalizer tagged (.parse tagged cause)
  | noTokens (parsed : TaggedText.parse tagged = .ok []) :
    VerbalizationFails normalizer tagged (.exhausted tagged)
  | exceeding {tokens : List Token} {cause : ConfigurationError}
    (parsed : TaggedText.parse tagged = .ok tokens)
    (failed : normalizer.budget.chunks tokens = .error cause) :
    VerbalizationFails normalizer tagged (.configuration cause)
  | unanswered {tokens chunk : List Token} {chunks : List (List Token)}
    (parsed : TaggedText.parse tagged = .ok tokens)
    (cut : normalizer.budget.chunks tokens = .ok chunks) (member : chunk ∈ chunks)
    (silent : firstAnswer? normalizer.grammars.verbalizer (Serializations.ofTokens chunk).total
      (Serializations.ofTokens chunk) = .ok none) :
    VerbalizationFails normalizer tagged (.exhausted (Token.serializeAll chunk))
  | verbalization {serialized : Text} {cause : GrammarError}
    (failed : normalizer.grammars.verbalizer serialized 1 = .error cause) :
    VerbalizationFails normalizer tagged (.verbalization serialized cause)

/-- How the normalization of an input for the tagger fails. -/
inductive Fails (normalizer : Normalizer) (input : Text) : NormalizationError → Prop
  | tagging {cause : GrammarError} (failed : normalizer.grammars.tagger input 1 = .error cause) :
    Fails normalizer input (.tagging input cause)
  | noTaggingPath (silent : normalizer.grammars.tagger.answer? input = none) :
    Fails normalizer input (.noTaggingPath input)
  | verbalization {tagged : Text} {fault : NormalizationError}
    (best : normalizer.grammars.tagger.answer? input = some tagged)
    (failed : VerbalizationFails normalizer tagged fault) : Fails normalizer input fault

theorem VerbalizationFails.tolerated_or_fatal {tagged : Text} {fault : NormalizationError}
    (fails : VerbalizationFails normalizer tagged fault) : fault.Tolerated ∨ fault.Fatal := by
  cases fails with
  | parse _ => exact .inl (.parse ..)
  | noTokens _ => exact .inl (.exhausted _)
  | exceeding _ _ => exact .inr (.configuration _)
  | unanswered _ _ _ _ => exact .inl (.exhausted _)
  | verbalization _ => exact .inl (.verbalization ..)

theorem Fails.tolerated_or_fatal {input : Text} {fault : NormalizationError}
    (fails : Fails normalizer input fault) : fault.Tolerated ∨ fault.Fatal := by
  cases fails with
  | tagging _ => exact .inr (.tagging ..)
  | noTaggingPath _ => exact .inr (.noTaggingPath _)
  | verbalization _ failed => exact failed.tolerated_or_fatal

theorem firstAnswer?_eq_error {verbalizer : Grammar Weight} {count : Nat} {run : Serializations}
    {fault : NormalizationError} (failed : firstAnswer? verbalizer count run = .error fault) :
    ∃ serialized cause, verbalizer serialized 1 = .error cause ∧
      fault = .verbalization serialized cause := by
  induction count generalizing run with
  | zero => cases failed
  | succ count ih =>
    unfold firstAnswer? at failed
    split at failed
    · cases failed
    · rename_i serialized later _
      split at failed
      · rename_i cause refused
        exact ⟨serialized, cause, refused, (Except.error.inj failed).symm⟩
      · split at failed
        · cases failed
        · exact ih failed

theorem verbalizeChunk_eq_error {chunk : List Token} {fault : NormalizationError}
    (failed : normalizer.verbalizeChunk chunk = .error fault) :
    (firstAnswer? normalizer.grammars.verbalizer (Serializations.ofTokens chunk).total
        (Serializations.ofTokens chunk) = .ok none ∧
      fault = .exhausted (Token.serializeAll chunk)) ∨
    (∃ serialized cause, normalizer.grammars.verbalizer serialized 1 = .error cause ∧
      fault = .verbalization serialized cause) := by
  unfold verbalizeChunk at failed
  cases answered : firstAnswer? normalizer.grammars.verbalizer
      (Serializations.ofTokens chunk).total (Serializations.ofTokens chunk) with
  | error refused =>
    obtain rfl : refused = fault := by simpa [answered, bind, Except.bind] using failed
    exact .inr (firstAnswer?_eq_error answered)
  | ok answer? =>
    cases answer? with
    | none =>
      simp only [answered, bind, Except.bind, Except.error.injEq] at failed
      exact .inl ⟨rfl, failed.symm⟩
    | some text => simp [answered, bind, Except.bind, pure, Except.pure] at failed

theorem verbalizationFails_of_chunks {tagged : Text} {tokens : List Token}
    {chunks : List (List Token)} {fault : NormalizationError}
    (parsed : TaggedText.parse tagged = .ok tokens)
    (cut : normalizer.budget.chunks tokens = .ok chunks)
    (failed : normalizer.verbalizeChunks chunks = .error fault) :
    VerbalizationFails normalizer tagged fault := by
  obtain ⟨_, chunk, _, _, rfl, -, broke⟩ := verbalizeChunks_eq_error_iff.mp failed
  rcases verbalizeChunk_eq_error broke with ⟨silent, rfl⟩ | ⟨serialized, cause, refused, rfl⟩
  · exact .unanswered parsed cut (by simp) silent
  · exact .verbalization refused

/-- A tagged text is verbalized in at least one chunk, or a step fails. -/
theorem verbalize_outcome (normalizer : Normalizer) (tagged : Text) :
    (∃ text count, normalizer.verbalize tagged = .ok (text, count) ∧ 0 < count) ∨
    (∃ fault, normalizer.verbalize tagged = .error fault ∧
      VerbalizationFails normalizer tagged fault) := by
  cases parsed : TaggedText.parse tagged with
  | error cause =>
    exact .inr ⟨_, by simp [verbalize, parsed, Except.mapError, bind, Except.bind], .parse parsed⟩
  | ok tokens =>
    by_cases empty : tokens = []
    · subst empty
      exact .inr ⟨_, by simp [verbalize, parsed, Except.mapError, bind, Except.bind], .noTokens parsed⟩
    · cases cut : normalizer.budget.chunks tokens with
      | error cause =>
        refine .inr ⟨_, ?_, .exceeding parsed cut⟩
        simp [verbalize, parsed, empty, cut, Except.mapError, bind, Except.bind]
      | ok chunks =>
        cases verbalized : normalizer.verbalizeChunks chunks with
        | error fault =>
          refine .inr ⟨fault, ?_, verbalizationFails_of_chunks parsed cut verbalized⟩
          simp [verbalize, parsed, empty, cut, verbalized, Except.mapError, bind, Except.bind]
        | ok texts =>
          refine .inl ⟨Punctuation.collapseSpaces (Text.joinSpaced texts), chunks.length, ?_, ?_⟩
          · simp [verbalize, parsed, empty, cut, verbalized, Except.mapError, bind, Except.bind,
              pure, Except.pure]
          · obtain ⟨whole, -⟩ := Budget.partition_of_chunks cut
            refine List.length_pos_iff.mpr ?_
            rintro rfl
            exact empty whole.symm

/-- A prepared text is normalized from the best tagged text, or a step fails. -/
theorem run_outcome (normalizer : Normalizer) (text prepared : Text) :
    (∃ tagged verbalized count,
      normalizer.grammars.tagger.answer? (normalizer.taggerInput prepared) = some tagged ∧
      normalizer.verbalize tagged = .ok (verbalized, count) ∧ 0 < count ∧
      normalizer.run text prepared =
        .ok ⟨normalizer.finish prepared verbalized, normalizer.finish prepared verbalized != text,
          some tagged, count, false⟩) ∨
    (∃ fault, normalizer.run text prepared = .error fault ∧
      Fails normalizer (normalizer.taggerInput prepared) fault) := by
  generalize input_eq : normalizer.taggerInput prepared = input
  cases answered : normalizer.grammars.tagger input 1 with
  | error cause =>
    refine .inr ⟨_, ?_, .tagging answered⟩
    simp [run, input_eq, tag, answered, bind, Except.bind]
  | ok lattice =>
    have best : normalizer.grammars.tagger.answer? input = lattice.shortest? := by
      rw [Grammar.answer?, answered]
    obtain ⟨paths⟩ := lattice
    cases paths with
    | nil =>
      refine .inr ⟨_, ?_, .noTaggingPath best⟩
      simp [run, input_eq, tag, answered, Lattice.isEmpty, bind, Except.bind]
    | cons path paths =>
      rcases verbalize_outcome normalizer path.text with
        ⟨verbalized, count, success, positive⟩ | ⟨fault, failed, fails⟩
      · refine .inl ⟨path.text, verbalized, count, best, success, positive, ?_⟩
        simp [run, input_eq, tag, answered, Lattice.isEmpty, Lattice.shortest?, success, bind,
          Except.bind, pure, Except.pure]
      · refine .inr ⟨fault, ?_, .verbalization best fails⟩
        simp [run, input_eq, tag, answered, Lattice.isEmpty, Lattice.shortest?, failed, bind,
          Except.bind]

/-! All ways to normalize a text together. -/

theorem outcome_of_blank (normalizer : Normalizer) {text : Text} (blank : text.Blank) :
    normalizer.tryNormalize text = .ok text ∧
      normalizer.normalizeDetailed text = .ok (unchanged text false) := by
  have nothing : prepare text = [] := (prepare_eq_nil_iff text).mpr blank
  simp [tryNormalize, normalizeDetailed, nothing]

theorem outcome_of_not_blank (normalizer : Normalizer) {text : Text} (solid : ¬ text.Blank) :
    (∃ tagged finished count,
      normalizer.grammars.tagger.answer? (normalizer.taggerInput (prepare text)) = some tagged ∧
      0 < count ∧ normalizer.tryNormalize text = .ok finished ∧
      normalizer.normalizeDetailed text =
        .ok ⟨finished, finished != text, some tagged, count, false⟩) ∨
    (∃ fault, fault.Tolerated ∧ normalizer.tryNormalize text = .error fault ∧
      normalizer.normalizeDetailed text = .ok (unchanged text true)) ∨
    (∃ fault, fault.Fatal ∧ normalizer.tryNormalize text = .error fault ∧
      normalizer.normalizeDetailed text = .error fault) := by
  have something := prepare_ne_nil solid
  rcases run_outcome normalizer text (prepare text) with
    ⟨tagged, verbalized, count, best, -, positive, success⟩ | ⟨fault, failed, fails⟩
  · refine .inl ⟨tagged, normalizer.finish (prepare text) verbalized, count, best, positive, ?_, ?_⟩
    · simp [tryNormalize, something, success, Except.map]
    · simp [normalizeDetailed, something, success]
  · have tried : normalizer.tryNormalize text = .error fault := by
      simp [tryNormalize, something, failed, Except.map]
    rcases fails.tolerated_or_fatal with tolerated | fatal
    · refine .inr (.inl ⟨fault, tolerated, tried, ?_⟩)
      simp [normalizeDetailed, something, failed, tolerated.isRecoverable]
    · refine .inr (.inr ⟨fault, fatal, tried, ?_⟩)
      simp [normalizeDetailed, something, failed, fatal.isRecoverable]

theorem fields_of_normalizeDetailed {text : Text} {detail : Normalization}
    (success : normalizer.normalizeDetailed text = .ok detail) :
    (detail.changed = true ↔ detail.text ≠ text) ∧
      (detail.fellBack = true → detail = unchanged text true) := by
  by_cases blank : text.Blank
  · have detailed := (outcome_of_blank normalizer blank).2
    obtain rfl := Except.ok.inj (success.symm.trans detailed)
    simp [unchanged]
  · rcases outcome_of_not_blank normalizer blank with
      ⟨tagged, finished, count, -, -, -, detailed⟩ | ⟨-, -, -, detailed⟩ | ⟨fault, -, -, detailed⟩
    · obtain rfl := Except.ok.inj (success.symm.trans detailed)
      simp
    · obtain rfl := Except.ok.inj (success.symm.trans detailed)
      simp [unchanged]
    · cases success.symm.trans detailed

/-- A text of which nothing is left is blank, and stays as it is. Any other text is normalized with
its tagged text and at least one chunk if no step fails; it stands in for its normalization just when
a step behind the tagger failed, and every other failure is passed on. -/
theorem normalizeDetailed_follows_tryNormalize (normalizer : Normalizer) (text : Text) :
    (prepare text = [] ↔ text.Blank) ∧
    (text.Blank → normalizer.tryNormalize text = .ok text ∧
      normalizer.normalizeDetailed text = .ok ⟨text, false, none, 0, false⟩) ∧
    (¬ text.Blank →
      (∀ result, normalizer.tryNormalize text = .ok result ↔
        ∃ tagged count, 0 < count ∧
          normalizer.grammars.tagger.answer? (normalizer.taggerInput (prepare text)) =
            some tagged ∧
          normalizer.normalizeDetailed text =
            .ok ⟨result, result != text, some tagged, count, false⟩) ∧
      ((∃ fault, fault.Tolerated ∧ normalizer.tryNormalize text = .error fault) ↔
        normalizer.normalizeDetailed text = .ok ⟨text, false, none, 0, true⟩) ∧
      (∀ fault, fault.Fatal ∧ normalizer.tryNormalize text = .error fault ↔
        normalizer.normalizeDetailed text = .error fault) ∧
      (∀ fault, normalizer.tryNormalize text = .error fault → fault.Tolerated ∨ fault.Fatal)) ∧
    (∀ detail, normalizer.normalizeDetailed text = .ok detail →
      (detail.changed = true ↔ detail.text ≠ text) ∧
      (detail.fellBack = true → detail = ⟨text, false, none, 0, true⟩) ∧
      normalizer.normalize text = .ok detail.text) ∧
    (∀ fault, normalizer.normalizeDetailed text = .error fault →
      normalizer.normalize text = .error fault) := by
  refine ⟨prepare_eq_nil_iff text, outcome_of_blank normalizer, fun solid => ?_,
    fun detail success => ?_, fun fault failed => by rw [normalize, failed]; rfl⟩
  · rcases outcome_of_not_blank normalizer solid with
      ⟨tagged, finished, count, best, positive, tried, detailed⟩ |
        ⟨fault, tolerated, tried, detailed⟩ | ⟨fault, fatal, tried, detailed⟩
    · simp [tried, detailed, best, positive]
    · have passed : ∀ other : NormalizationError, other.Fatal → fault ≠ other := by
        rintro other fatal rfl
        exact fatal.not_tolerated tolerated
      simpa [tried, detailed, unchanged, tolerated] using passed
    · simp [tried, detailed, fatal, fatal.not_tolerated]
  · obtain ⟨differs, verbatim⟩ := fields_of_normalizeDetailed success
    exact ⟨differs, verbatim, by rw [normalize, success]; rfl⟩

/-- A grammar that lists the outputs of an input, best first. -/
def listing (outputs : Text → List Text) : Grammar Weight := fun input n =>
  .ok (Lattice.truncate ⟨(outputs input).map (⟨·, .zero⟩)⟩ n)

/-- Tagged texts for two inputs. The second one for `5` is no token sequence, and the third one says
the same as the first one. -/
def taggings (input : Text) : List Text :=
  if input = "5".toList then
    ["tokens \x7b name: \"five\" \x7d", "tokens \x7b", "tokens \x7bname: \"five\"\x7d",
      "tokens \x7b name: \"V\" \x7d"].map String.toList
  else if input = "?".toList then ["tokens \x7b".toList]
  else []

def spokenForms (serialized : Text) : List Text :=
  if serialized = "tokens \x7b name: \"five\" \x7d".toList then ["five".toList]
  else if serialized = "tokens \x7b name: \"V\" \x7d".toList then ["V".toList]
  else []

/-- A normalizer that knows one number. -/
def five : Normalizer where
  direction := .normalize
  language := "en".toList
  grammars := ⟨listing taggings, listing spokenForms, none⟩
  budget := .standard
  preProcess := false
  postProcess := false

theorem normalizeDetailed_five :
    five.normalizeDetailed " ".toList = .ok ⟨" ".toList, false, none, 0, false⟩ ∧
    (∃ tagged count, 0 < count ∧ five.normalizeDetailed "5".toList =
      .ok ⟨"five".toList, true, some tagged, count, false⟩) ∧
    five.normalizeDetailed "?".toList = .ok ⟨"?".toList, false, none, 0, true⟩ ∧
    five.normalizeDetailed "6".toList = .error (.noTaggingPath "6".toList) := by
  have tried : five.tryNormalize "5".toList = .ok "five".toList := by decide +kernel
  have unparsed : five.tryNormalize "?".toList =
      .error (.parse "tokens \x7b".toList (.unexpectedEnd 8 .closeBrace)) := by decide +kernel
  have untagged : five.tryNormalize "6".toList = .error (.noTaggingPath "6".toList) := by
    decide +kernel
  have solid : ∀ text ∈ ["5".toList, "?".toList, "6".toList], ¬ Text.Blank text := by decide
  have blank : Text.Blank " ".toList := by decide
  have follows (text : Text) (member : text ∈ ["5".toList, "?".toList, "6".toList]) :=
    (normalizeDetailed_follows_tryNormalize five text).2.2.1 (solid text member)
  obtain ⟨success, -⟩ := follows "5".toList (by simp)
  obtain ⟨-, fallback, -⟩ := follows "?".toList (by simp)
  obtain ⟨-, -, failure, -⟩ := follows "6".toList (by simp)
  obtain ⟨tagged, count, positive, -, detailed⟩ := (success _).mp tried
  exact ⟨((normalizeDetailed_follows_tryNormalize five " ".toList).2.1 blank).2,
    ⟨tagged, count, positive, detailed⟩, fallback.mp ⟨_, .parse .., unparsed⟩,
    (failure _).mp ⟨.noTaggingPath _, untagged⟩⟩

end Normalizer

end SpokenForm
