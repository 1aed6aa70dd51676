import SpokenForm.Proofs.Normalizer.Compositional
import SpokenForm.Proofs.Token.Reordering

/-! Verbalization of reordered tokens. They are cut at the same places, and alike chunks have the same
serializations in different orders; so they are treated alike if the accepted serializations of a
chunk have one answer. -/
namespace SpokenForm

/-- The accepted serializations of a chunk have one answer. -/
def Grammar.AgreesOn (verbalizer : Grammar Weight) (chunk : List Token) : Prop :=
  ∀ texts, (Serializations.ofTokens chunk).Yields texts →
    ∀ first ∈ texts, ∀ second ∈ texts, ∀ answer other,
      verbalizer.answer? first = some answer → verbalizer.answer? second = some other →
        answer = other

theorem findSome?_eq_of_agree {α β : Type} {items others : List α} {f : α → Option β}
    (same : ∀ item, item ∈ items ↔ item ∈ others)
    (agree : ∀ first ∈ items, ∀ second ∈ items, ∀ answer other,
      f first = some answer → f second = some other → answer = other) :
    items.findSome? f = others.findSome? f := by
  cases found : items.findSome? f with
  | none =>
    symm
    rw [List.findSome?_eq_none_iff] at found ⊢
    intro item member
    exact found item ((same item).mpr member)
  | some answer =>
    obtain ⟨first, inItems, answered⟩ := List.exists_of_findSome?_eq_some found
    cases alsoFound : others.findSome? f with
    | none =>
      have lacking := List.findSome?_eq_none_iff.mp alsoFound first ((same first).mp inItems)
      simp [answered] at lacking
    | some other =>
      obtain ⟨second, inOthers, alsoAnswered⟩ := List.exists_of_findSome?_eq_some alsoFound
      rw [agree first inItems second ((same second).mpr inOthers) answer other answered alsoAnswered]

theorem Token.Alike.arrangementCount {first second : Token} (alike : Alike first second) :
    arrangementCount first = arrangementCount second := by
  rw [arrangementCount_eq, arrangementCount_eq, alike.count]

theorem Token.mem_choicesAll_of_alike {chunk other : List Token}
    (alike : List.Forall₂ Alike chunk other) (arranged : List Token) :
    arranged ∈ choicesAll orders chunk ↔ arranged ∈ choicesAll orders other := by
  rw [mem_choicesAll, mem_choicesAll]
  exact forall₂_congr_left alike (fun _ _ same choice => same.choices choice) arranged

namespace Grammar

variable {verbalizer : Grammar Weight}

/-- Alike chunks have the same answer. -/
theorem chunkAnswer?_of_alike {chunk other : List Token} (nonempty : chunk ≠ [])
    (fits : Token.exactTotal chunk ≤ Count.largest) (agrees : verbalizer.AgreesOn chunk)
    (alike : List.Forall₂ Token.Alike chunk other) :
    verbalizer.chunkAnswer? chunk = verbalizer.chunkAnswer? other := by
  have yields := Serializations.yields_all nonempty fits
  refine findSome?_eq_of_agree (Token.mem_choicesAll_of_alike alike) ?_
  intro first inFirst second inSecond
  exact agrees _ yields _ (List.mem_map_of_mem inFirst) _ (List.mem_map_of_mem inSecond)

theorem chunkAnswers_of_alike {chunks others : List (List Token)}
    (each : ∀ chunk ∈ chunks, chunk ≠ [] ∧ Token.exactTotal chunk ≤ Count.largest ∧
      verbalizer.AgreesOn chunk)
    (alike : List.Forall₂ (List.Forall₂ Token.Alike) chunks others) :
    chunks.mapM verbalizer.chunkAnswer? = others.mapM verbalizer.chunkAnswer? := by
  induction alike with
  | nil => rfl
  | cons head _ ih =>
    obtain ⟨⟨nonempty, fits, agrees⟩, later⟩ := List.forall_mem_cons.mp each
    rw [List.mapM_cons, List.mapM_cons, chunkAnswer?_of_alike nonempty fits agrees head, ih later]

end Grammar

namespace Normalizer

open TaggedText Serializations

variable {normalizer : Normalizer} {tagged otherTagged : Text} {tokens others : List Token}

theorem verbalize_of_exceeding (parsed : parse tagged = .ok tokens) (nonempty : tokens ≠ [])
    {cause : ConfigurationError} (failed : normalizer.budget.chunks tokens = .error cause) :
    normalizer.verbalize tagged = .error (.configuration cause) := by
  simp [verbalize, parsed, nonempty, failed, Except.mapError, bind, Except.bind]

theorem verbalize_of_alike_chunks (neverFails : normalizer.grammars.verbalizer.NeverFails)
    (small : normalizer.budget.limit < Count.largest) (parsed : parse tagged = .ok tokens)
    (otherParsed : parse otherTagged = .ok others) (nonempty : tokens ≠ []) (alsoNonempty : others ≠ [])
    {chunks otherChunks : List (List Token)} (cut : normalizer.budget.chunks tokens = .ok chunks)
    (otherCut : normalizer.budget.chunks others = .ok otherChunks)
    (alike : List.Forall₂ (List.Forall₂ Token.Alike) chunks otherChunks)
    (agrees : ∀ chunk ∈ chunks, normalizer.grammars.verbalizer.AgreesOn chunk) :
    (∃ text count, normalizer.verbalize tagged = .ok (text, count) ∧
      normalizer.verbalize otherTagged = .ok (text, count)) ∨
    (∃ chunk otherChunk, normalizer.verbalize tagged = .error (.exhausted chunk) ∧
      normalizer.verbalize otherTagged = .error (.exhausted otherChunk)) := by
  have answers := Grammar.chunkAnswers_of_alike (fun chunk member => by
    have allowed := (Budget.partition_of_chunks cut).2 chunk member
    exact ⟨allowed.nonempty, allowed.exactTotal_le small, agrees chunk member⟩) alike
  have here := verbalize_of_chunks neverFails small parsed nonempty cut
  have there := verbalize_of_chunks neverFails small otherParsed alsoNonempty otherCut
  rw [← answers, ← alike.length_eq] at there
  rcases here with ⟨texts, all, verbalized⟩ | ⟨lacking, chunk, -, failed⟩
  · rcases there with ⟨otherTexts, alsoAll, otherVerbalized⟩ | ⟨lacking, -⟩
    · obtain rfl := Option.some.inj (all.symm.trans alsoAll)
      exact .inl ⟨_, _, verbalized, otherVerbalized⟩
    · simp [all] at lacking
  · rcases there with ⟨texts, all, -⟩ | ⟨-, otherChunk, -, otherFailed⟩
    · simp [all] at lacking
    · exact .inr ⟨_, _, failed, otherFailed⟩

/-- Reordering fields whose order is not settled changes nothing about a verbalization, if names are
distinct and the accepted serializations of a chunk have one answer. -/
theorem verbalize_reordered (normalizer : Normalizer)
    (neverFails : normalizer.grammars.verbalizer.NeverFails)
    (small : normalizer.budget.limit < Count.largest) (parsed : parse tagged = .ok tokens)
    (otherParsed : parse otherTagged = .ok others)
    (reordered : List.Forall₂ Token.Reordered tokens others)
    (distinct : ∀ token ∈ tokens, Token.DistinctNames token)
    (agrees : ∀ chunks, normalizer.budget.chunks tokens = .ok chunks →
      ∀ chunk ∈ chunks, normalizer.grammars.verbalizer.AgreesOn chunk) :
    (∃ text count, normalizer.verbalize tagged = .ok (text, count) ∧
      normalizer.verbalize otherTagged = .ok (text, count)) ∨
    (∃ chunk otherChunk, normalizer.verbalize tagged = .error (.exhausted chunk) ∧
      normalizer.verbalize otherTagged = .error (.exhausted otherChunk)) ∨
    (∃ estimate text otherText,
      normalizer.verbalize tagged =
        .error (.configuration (.budgetExceeded estimate normalizer.budget.limit text)) ∧
      normalizer.verbalize otherTagged =
        .error (.configuration (.budgetExceeded estimate normalizer.budget.limit otherText))) := by
  have alike : List.Forall₂ Token.Alike tokens others := forall₂_imp_of_mem
    (fun token member _ => Token.alike_of_reordered (distinct token member)) reordered
  by_cases empty : tokens = []
  · subst empty
    obtain rfl := List.forall₂_nil_left_iff.mp reordered
    exact .inr (.inl ⟨_, _, verbalize_nil parsed, verbalize_nil otherParsed⟩)
  · have alsoNonempty : others ≠ [] := by
      rintro rfl
      exact empty (List.forall₂_nil_right_iff.mp reordered)
    rcases Budget.chunks_related (fun _ _ same => Token.Alike.arrangementCount same)
      normalizer.budget alike with
      ⟨chunks, otherChunks, cut, otherCut, each⟩ | ⟨estimate, text, otherText, failed, otherFailed⟩
    · rcases verbalize_of_alike_chunks neverFails small parsed otherParsed empty alsoNonempty cut
        otherCut each (agrees chunks cut) with verbalized | exhausted
      · exact .inl verbalized
      · exact .inr (.inl exhausted)
    · exact .inr (.inr ⟨estimate, text, otherText, verbalize_of_exceeding parsed empty failed,
        verbalize_of_exceeding otherParsed alsoNonempty otherFailed⟩)

/-- A decimal with its unit, whose fields stand in another order. -/
def reversedMeasure : Token :=
  [.nested "tokens".toList [.nested "measure".toList [
    .leaf "units".toList "m".toList,
    .nested "decimal".toList [
      .leaf "fractional_part".toList "5".toList, .leaf "integer_part".toList "1".toList]]]]

theorem reordered_reversedMeasure : Token.Reordered decimalMeasure reversedMeasure := by
  have decimal := Field.Reordered.nested "decimal".toList
    (.cons (.leaf "integer_part".toList "1".toList)
      (.cons (.leaf "fractional_part".toList "5".toList) .nil))
    (List.Perm.swap _ _ _) (fun fixed => absurd fixed (by decide))
  have measure := Field.Reordered.nested "measure".toList
    (.cons decimal (.cons (.leaf "units".toList "m".toList) .nil))
    (List.Perm.swap _ _ _) (fun fixed => absurd fixed (by decide))
  have block := Field.Reordered.nested "tokens".toList (.cons measure .nil) (.refl _) fun _ => rfl
  exact ⟨reversedMeasure, .cons block .nil, .refl _, fun _ => rfl⟩

set_option maxRecDepth 2000 in
theorem parse_reversedMeasure :
    parse (Token.serializeAll [reversedMeasure]) = .ok [reversedMeasure] := rfl

theorem agreesOn_decimalMeasure :
    (Grammar.tokenwise unitsFirst).AgreesOn [decimalMeasure] := by
  intro texts yields first inFirst second inSecond answer other answered alsoAnswered
  have fits : Token.exactTotal [decimalMeasure] ≤ Count.largest := by decide
  obtain rfl := yields.unique (yields_all (by simp) fits)
  have all : ∀ text ∈ (Token.choicesAll orders [decimalMeasure]).map Token.serializeAll,
      (Grammar.tokenwise unitsFirst).answer? text = none ∨
        (Grammar.tokenwise unitsFirst).answer? text = some "m 1.5".toList := by
    decide +kernel
  have one := all first inFirst
  have alsoOne := all second inSecond
  simp only [answered, alsoAnswered, reduceCtorEq, false_or, Option.some.injEq] at one alsoOne
  rw [one, alsoOne]

theorem verbalize_reordered_measures :
    (measures ⟨4, by decide⟩).verbalize (Token.serializeAll [decimalMeasure, decimalMeasure]) =
      .ok ("m 1.5 m 1.5".toList, 2) ∧
    (measures ⟨4, by decide⟩).verbalize (Token.serializeAll [reversedMeasure, reversedMeasure]) =
      .ok ("m 1.5 m 1.5".toList, 2) := by
  have unreversed : (measures ⟨4, by decide⟩).verbalize
      (Token.serializeAll [decimalMeasure, decimalMeasure]) = .ok ("m 1.5 m 1.5".toList, 2) := by
    decide +kernel
  refine ⟨unreversed, ?_⟩
  have parsed : parse (Token.serializeAll [decimalMeasure, decimalMeasure]) =
      .ok [decimalMeasure, decimalMeasure] :=
    parse_serializeAll (exists_parse_of_subset (by simp) ⟨_, parse_measure_date⟩)
  have otherParsed : parse (Token.serializeAll [reversedMeasure, reversedMeasure]) =
      .ok [reversedMeasure, reversedMeasure] :=
    parse_serializeAll (exists_parse_of_subset (by simp) ⟨_, parse_reversedMeasure⟩)
  have distinct : ∀ token ∈ [decimalMeasure, decimalMeasure], Token.DistinctNames token := by
    simp [decimalMeasure_distinctNames]
  have cut : (measures ⟨4, by decide⟩).budget.chunks [decimalMeasure, decimalMeasure] =
      .ok [[decimalMeasure], [decimalMeasure]] := rfl
  have agrees : ∀ chunks, (measures ⟨4, by decide⟩).budget.chunks [decimalMeasure, decimalMeasure] =
      .ok chunks → ∀ chunk ∈ chunks, (Grammar.tokenwise unitsFirst).AgreesOn chunk := by
    intro chunks alsoCut
    obtain rfl := Except.ok.inj (cut.symm.trans alsoCut)
    simp [agreesOn_decimalMeasure]
  rcases verbalize_reordered (measures ⟨4, by decide⟩) (Grammar.tokenwise_neverFails unitsFirst)
    (by decide) parsed otherParsed
    (.cons reordered_reversedMeasure (.cons reordered_reversedMeasure .nil)) distinct agrees with
    ⟨text, count, verbalized, same⟩ | ⟨_, _, failed, _⟩ | ⟨_, _, _, failed, _⟩
  · obtain ⟨rfl, rfl⟩ := Prod.mk.inj (Except.ok.inj (unreversed.symm.trans verbalized))
    exact same
  · simp [unreversed] at failed
  · simp [unreversed] at failed

end Normalizer

end SpokenForm
