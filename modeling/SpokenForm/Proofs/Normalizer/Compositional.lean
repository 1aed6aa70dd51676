import SpokenForm.Proofs.Normalizer.Verbalization

/-! Verbalization token by token. Where the answer for a text is put together from values of its
tokens, the first accepted combination of arrangements is made of the first accepted arrangement of
each token; so it is of no account how the tokens are cut into chunks. -/
namespace SpokenForm

theorem findSome?_flatMap {α β γ : Type} (items : List α) (block : α → List β) (f : β → Option γ) :
    (items.flatMap block).findSome? f = items.findSome? fun item => (block item).findSome? f := by
  induction items with
  | nil => rfl
  | cons item items ih =>
    rw [List.flatMap_cons, List.findSome?_append, ih, List.findSome?_cons]
    cases (block item).findSome? f <;> rfl

theorem findSome?_congr {α β : Type} {items : List α} {f g : α → Option β}
    (same : ∀ item ∈ items, f item = g item) : items.findSome? f = items.findSome? g := by
  induction items with
  | nil => rfl
  | cons item items ih =>
    obtain ⟨first, others⟩ := List.forall_mem_cons.mp same
    rw [List.findSome?_cons, List.findSome?_cons, first, ih others]

theorem findSome?_mapM_cons {α β : Type} (value : α → Option β) (first : α) (rest : List (List α)) :
    (rest.map (first :: ·)).findSome? (List.mapM value) =
      (value first).bind fun answer => (rest.findSome? (List.mapM value)).map (answer :: ·) := by
  rw [List.findSome?_map]
  cases answered : value first with
  | none => simp [answered]
  | some answer =>
    rw [Option.bind_some, List.map_findSome?]
    apply findSome?_congr
    intro later _
    simp only [Function.comp_apply, List.mapM_cons, answered]
    cases later.mapM value <;> rfl

/-- The first combination all of whose members have a value consists of the first choice with a value
for each token. -/
theorem Token.findSome?_choicesAll (free : List Field → List (List Field)) {β : Type}
    (value : Token → Option β) (tokens : List Token) :
    (choicesAll free tokens).findSome? (List.mapM value) =
      tokens.mapM fun token => (choices free token).findSome? value := by
  induction tokens with
  | nil => rfl
  | cons token tokens ih =>
    rw [choicesAll, findSome?_flatMap, List.mapM_cons]
    simp only [findSome?_mapM_cons, ih]
    cases tokens.mapM fun token => (choices free token).findSome? value with
    | none =>
      have lacking : ((choices free token).findSome? fun first =>
          (value first).bind fun _ => (none : Option (List β))) = none := by simp
      simp only [Option.map_none, lacking]
      cases (choices free token).findSome? value <;> rfl
    | some answers =>
      have early : (fun first => (value first).bind fun answer => (some answers).map (answer :: ·)) =
          Option.map (· :: answers) ∘ value := by
        funext first
        cases answered : value first <;> simp [answered]
      rw [early, ← List.map_findSome?]
      cases (choices free token).findSome? value <;> rfl

namespace TaggedText

/-- The serialization of a single token that some text spells. -/
def IsTokenText (text : Text) : Prop :=
  ∃ token, (∃ source, parse source = .ok [token]) ∧ Token.serialize token = text

theorem isTokenText_of_mem {tokens : List Token} (spelled : ∃ text, parse text = .ok tokens)
    {token : Token} (member : token ∈ tokens) : IsTokenText (Token.serialize token) :=
  ⟨token, exists_parse_of_subset (by simpa using member) spelled, rfl⟩

end TaggedText

namespace Grammar

open TaggedText

/-- Token texts with spaces between them are accepted if each has a value, and the answer is then
made of their values. -/
def Compositional (verbalizer : Grammar Weight) (value : Text → Option Text) : Prop :=
  ∀ texts, texts ≠ [] → (∀ text ∈ texts, IsTokenText text) →
    verbalizer.answer? (Text.joinSpaced texts) = (texts.mapM value).map Text.joinSpaced

/-- The value of the first arrangement of a token that has one. -/
def tokenAnswer? (value : Text → Option Text) (token : Token) : Option Text :=
  (Token.choices orders token).findSome? fun arranged => value (Token.serialize arranged)

variable {verbalizer : Grammar Weight} {value : Text → Option Text}
  (compositional : verbalizer.Compositional value)
include compositional

theorem answer?_serializeAll {tokens : List Token} (nonempty : tokens ≠ [])
    (spelled : ∃ text, parse text = .ok tokens) :
    verbalizer.answer? (Token.serializeAll tokens) =
      (tokens.mapM fun token => value (Token.serialize token)).map Text.joinSpaced := by
  have texts : ∀ text ∈ tokens.map Token.serialize, IsTokenText text := by
    intro text member
    obtain ⟨token, inside, rfl⟩ := List.mem_map.mp member
    exact isTokenText_of_mem spelled inside
  rw [Token.serializeAll, compositional _ (by simpa using nonempty) texts, List.mapM_map]
  rfl

theorem chunkAnswer?_eq {chunk : List Token} (nonempty : chunk ≠ [])
    (spelled : ∃ text, parse text = .ok chunk) :
    verbalizer.chunkAnswer? chunk = (chunk.mapM (tokenAnswer? value)).map Text.joinSpaced := by
  have each : ∀ arranged ∈ Token.choicesAll orders chunk,
      verbalizer.answer? (Token.serializeAll arranged) =
        (arranged.mapM fun token => value (Token.serialize token)).map Text.joinSpaced := by
    intro arranged member
    refine answer?_serializeAll compositional ?_
      (exists_parse_of_mem_choicesAll reorders_orders spelled member)
    rintro rfl
    cases chunk with
    | nil => exact nonempty rfl
    | cons token chunk => simp [Token.choicesAll] at member
  have joined := List.map_findSome? (l := Token.choicesAll orders chunk) (g := Text.joinSpaced)
    (f := List.mapM fun token => value (Token.serialize token))
  rw [chunkAnswer?, findSome?_congr each]
  exact joined.symm.trans (congrArg _ (Token.findSome?_choicesAll orders _ chunk))

/-- The answers for chunks, put together, are those for the tokens, wherever these were cut. -/
theorem chunkAnswers_eq {chunks : List (List Token)} (nonempty : ∀ chunk ∈ chunks, chunk ≠ [])
    (spelled : ∃ text, parse text = .ok chunks.flatten) :
    (chunks.mapM verbalizer.chunkAnswer?).map Text.joinSpaced =
      (chunks.flatten.mapM (tokenAnswer? value)).map Text.joinSpaced := by
  -- With a space in front of every piece it makes no difference which pieces are joined first.
  have spaced : (chunks.mapM verbalizer.chunkAnswer?).map (List.flatMap (' ' :: ·)) =
      (chunks.flatten.mapM (tokenAnswer? value)).map (List.flatMap (' ' :: ·)) := by
    induction chunks with
    | nil => rfl
    | cons chunk chunks ih =>
      obtain ⟨first, others⟩ := List.forall_mem_cons.mp nonempty
      have later := ih others (exists_parse_of_subset (by simp) spelled)
      have own := chunkAnswer?_eq compositional first (exists_parse_of_subset (by simp) spelled)
      rw [List.mapM_cons, own, List.flatten_cons, List.mapM_append]
      cases answered : chunk.mapM (tokenAnswer? value) with
      | none => rfl
      | some answers =>
        have behind : ' ' :: Text.joinSpaced answers = answers.flatMap (' ' :: ·) := by
          apply Text.spaced_joinSpaced
          rintro rfl
          cases chunk with
          | nil => exact first rfl
          | cons token chunk => simp [Option.bind_eq_some_iff] at answered
        calc
          _ = ((chunks.mapM verbalizer.chunkAnswer?).map (List.flatMap (' ' :: ·))).map
              (answers.flatMap (' ' :: ·) ++ ·) := by
            rw [← behind]
            cases chunks.mapM verbalizer.chunkAnswer? <;> rfl
          _ = ((chunks.flatten.mapM (tokenAnswer? value)).map (List.flatMap (' ' :: ·))).map
              (answers.flatMap (' ' :: ·) ++ ·) := by rw [later]
          _ = _ := by
            cases chunks.flatten.mapM (tokenAnswer? value) with
            | none => rfl
            | some texts => simp
  have joined : (Text.joinSpaced : List Text → Text) = List.tail ∘ List.flatMap (' ' :: ·) :=
    funext Text.joinSpaced_eq_tail
  rw [joined, ← Option.map_map, ← Option.map_map, spaced]

end Grammar

/-! Every choice of values is that of some verbalizer. -/

def Grammar.tokenwise (value : Text → Option Text) : Grammar Weight := fun text _ =>
  match TaggedText.parse text with
  | .error _ => .ok .empty
  | .ok tokens =>
    match tokens.mapM fun token => value (Token.serialize token) with
    | none => .ok .empty
    | some texts => .ok (.single (Text.joinSpaced texts) .zero)

theorem Grammar.tokenwise_neverFails (value : Text → Option Text) :
    (tokenwise value).NeverFails := by
  intro text
  unfold tokenwise
  split
  · exact ⟨_, rfl⟩
  · split
    · exact ⟨_, rfl⟩
    · exact ⟨_, rfl⟩

theorem TaggedText.exists_parse_of_isTokenText {texts : List Text}
    (tokenTexts : ∀ text ∈ texts, IsTokenText text) :
    ∃ tokens, texts = tokens.map Token.serialize ∧ ∃ source, parse source = .ok tokens := by
  induction texts with
  | nil => exact ⟨[], rfl, [], rfl⟩
  | cons text texts ih =>
    obtain ⟨⟨token, spelled, rfl⟩, others⟩ := List.forall_mem_cons.mp tokenTexts
    obtain ⟨tokens, rfl, spelledOthers⟩ := ih others
    obtain ⟨block, wellFormed⟩ := (exists_parse_iff [token]).mp spelled
    obtain ⟨blocks, othersWellFormed⟩ := (exists_parse_iff tokens).mp spelledOthers
    refine ⟨token :: tokens, rfl, (exists_parse_iff _).mpr ⟨?_, ?_⟩⟩
    · exact List.forall_mem_cons.mpr ⟨block token (by simp), blocks⟩
    · simp only [List.flatten_cons, List.flatten_nil, List.append_nil, List.flatMap_append,
        List.forall_mem_append] at wellFormed ⊢
      exact ⟨wellFormed, othersWellFormed⟩

theorem Grammar.tokenwise_compositional (value : Text → Option Text) :
    (tokenwise value).Compositional value := by
  intro texts _ tokenTexts
  obtain ⟨tokens, rfl, spelled⟩ := TaggedText.exists_parse_of_isTokenText tokenTexts
  have parsed := TaggedText.parse_serializeAll spelled
  rw [Token.serializeAll] at parsed
  rw [List.mapM_map]
  simp only [answer?, tokenwise, parsed, Function.comp_def]
  cases tokens.mapM fun token => value (Token.serialize token) <;> rfl

namespace Normalizer

open TaggedText Serializations

/-- The outcome for a text whose tokens fit the budget depends on the tokens alone. -/
theorem verbalize_of_compositional (normalizer : Normalizer) {value : Text → Option Text}
    (neverFails : normalizer.grammars.verbalizer.NeverFails)
    (compositional : normalizer.grammars.verbalizer.Compositional value)
    (small : normalizer.budget.limit < Count.largest)
    {tagged : Text} {tokens : List Token} (parsed : parse tagged = .ok tokens)
    (nonempty : tokens ≠ [])
    (fits : ∀ token ∈ tokens, Token.arrangementCount token ≤ normalizer.budget.limit) :
    (∃ texts count, tokens.mapM (Grammar.tokenAnswer? value) = some texts ∧
      normalizer.verbalize tagged =
        .ok (Punctuation.collapseSpaces (Text.joinSpaced texts), count)) ∨
    (tokens.mapM (Grammar.tokenAnswer? value) = none ∧
      ∃ chunk, normalizer.verbalize tagged = .error (.exhausted chunk)) := by
  obtain ⟨chunks, cut, rfl, allowed⟩ := Budget.chunks_partition fits
  have answers := Grammar.chunkAnswers_eq compositional
    (fun chunk member => (allowed chunk member).nonempty) ⟨tagged, parsed⟩
  rcases verbalize_of_chunks neverFails small parsed nonempty cut with
    ⟨pieces, all, verbalized⟩ | ⟨lacking, chunk, -, failed⟩
  · rw [all, Option.map_some] at answers
    obtain ⟨texts, each, same⟩ := Option.map_eq_some_iff.mp answers.symm
    exact .inl ⟨texts, chunks.length, each, by rw [same, verbalized]⟩
  · rw [lacking, Option.map_none] at answers
    exact .inr ⟨Option.map_eq_none_iff.mp answers.symm, _, failed⟩

/-- If a verbalizer never fails and goes token by token, all budgets that the tokens of a text fit
give the text one verbalization or none, however differently they cut it. -/
theorem verbalize_same_under_budgets (normalizer : Normalizer) (other : Budget)
    {value : Text → Option Text} (neverFails : normalizer.grammars.verbalizer.NeverFails)
    (compositional : normalizer.grammars.verbalizer.Compositional value)
    (small : normalizer.budget.limit < Count.largest) (otherSmall : other.limit < Count.largest)
    {tagged : Text} {tokens : List Token} (parsed : parse tagged = .ok tokens)
    (nonempty : tokens ≠ [])
    (fits : ∀ token ∈ tokens, Token.arrangementCount token ≤ normalizer.budget.limit)
    (otherFits : ∀ token ∈ tokens, Token.arrangementCount token ≤ other.limit) :
    (∃ text count otherCount, normalizer.verbalize tagged = .ok (text, count) ∧
      { normalizer with budget := other }.verbalize tagged = .ok (text, otherCount)) ∨
    (∃ chunk otherChunk, normalizer.verbalize tagged = .error (.exhausted chunk) ∧
      { normalizer with budget := other }.verbalize tagged = .error (.exhausted otherChunk)) := by
  have here := verbalize_of_compositional normalizer neverFails compositional small parsed nonempty
    fits
  have there := verbalize_of_compositional { normalizer with budget := other } neverFails
    compositional otherSmall parsed nonempty otherFits
  rcases here with ⟨texts, count, each, verbalized⟩ | ⟨lacking, chunk, failed⟩
  · rcases there with ⟨otherTexts, otherCount, alike, otherVerbalized⟩ | ⟨lacking, -⟩
    · obtain rfl := Option.some.inj (each.symm.trans alike)
      exact .inl ⟨_, count, otherCount, verbalized, otherVerbalized⟩
    · simp [each] at lacking
  · rcases there with ⟨texts, -, each, -⟩ | ⟨-, otherChunk, otherFailed⟩
    · simp [each] at lacking
    · exact .inr ⟨chunk, otherChunk, failed, otherFailed⟩

/-- Measures are read with their unit first, and nothing else is read. -/
def unitsFirst (text : Text) : Option Text :=
  if "tokens \x7b measure \x7b units".toList.isPrefixOf text then some "m 1.5".toList else none

def measures (budget : Budget) : Normalizer where
  direction := .normalize
  language := "en".toList
  grammars := ⟨fun _ _ => .ok .empty, Grammar.tokenwise unitsFirst, none⟩
  budget := budget
  preProcess := false
  postProcess := false

theorem verbalize_same_under_budgets_measures :
    (measures ⟨4, by decide⟩).verbalize (Token.serializeAll [decimalMeasure, decimalMeasure]) =
      .ok ("m 1.5 m 1.5".toList, 2) ∧
    ∃ count,
      (measures ⟨16, by decide⟩).verbalize (Token.serializeAll [decimalMeasure, decimalMeasure]) =
        .ok ("m 1.5 m 1.5".toList, count) := by
  have cutInTwo : (measures ⟨4, by decide⟩).verbalize
      (Token.serializeAll [decimalMeasure, decimalMeasure]) = .ok ("m 1.5 m 1.5".toList, 2) := by
    decide +kernel
  refine ⟨cutInTwo, ?_⟩
  have parsed : parse (Token.serializeAll [decimalMeasure, decimalMeasure]) =
      .ok [decimalMeasure, decimalMeasure] :=
    parse_serializeAll (exists_parse_of_subset (by simp) ⟨_, Serializations.parse_measure_date⟩)
  rcases verbalize_same_under_budgets (measures ⟨4, by decide⟩) ⟨16, by decide⟩
    (Grammar.tokenwise_neverFails unitsFirst) (Grammar.tokenwise_compositional unitsFirst)
    (by decide) (by decide) parsed (by simp) (by decide) (by decide) with
    ⟨text, _, count, verbalized, same⟩ | ⟨_, _, failed, _⟩
  · obtain ⟨rfl, -⟩ := Prod.mk.inj (Except.ok.inj (cutInTwo.symm.trans verbalized))
    exact ⟨count, same⟩
  · simp [cutInTwo] at failed

end Normalizer

end SpokenForm
