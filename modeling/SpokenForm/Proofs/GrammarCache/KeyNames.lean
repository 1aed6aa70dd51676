import SpokenForm.Proofs.Files.Sibling
import SpokenForm.Registry

/-! What the file name of a compiled grammar tells. Its parts are joined by underscores, and some of them
have underscores inside; still each can be read off, the first ones from the front and the last one from
the end, so that what stands between is the stem of the whitelist. -/
namespace SpokenForm

/-- A part without the separator ends where the first separator stands. -/
theorem Text.append_separator_inj {separator : Char} {part other rest more : Text}
    (plain : separator ∉ part) (alsoPlain : separator ∉ other)
    (same : part ++ separator :: rest = other ++ separator :: more) : part = other ∧ rest = more := by
  have pieces := congrArg (split separator) same
  rw [split_append, split_append, split_of_notMem plain, split_of_notMem alsoPlain] at pieces
  obtain rfl : part = other := (List.cons.inj pieces).1
  have behind := List.append_cancel_left same
  exact ⟨rfl, (List.cons.inj behind).2⟩

/-- A value is told by its name, and the name from what follows it, if no name has the separator. -/
theorem Text.name_separator_inj {Value : Type} {name : Value → Text} {separator : Char}
    {value other : Value} {rest more : Text} (plain : ∀ value, separator ∉ name value)
    (differ : Function.Injective name)
    (same : name value ++ separator :: rest = name other ++ separator :: more) :
    value = other ∧ rest = more := by
  obtain ⟨names, behind⟩ := append_separator_inj (plain value) (plain other) same
  exact ⟨differ names, behind⟩

theorem Direction.component_inj {direction other : Direction} {rest more : Text}
    (same : direction.component.toList ++ '_' :: rest = other.component.toList ++ '_' :: more) :
    direction = other ∧ rest = more := by
  have plain : ∀ direction : Direction, '_' ∉ direction.component.toList := by
    intro direction
    cases direction <;> decide
  have differ : Function.Injective fun direction : Direction => direction.component.toList := by
    intro direction other
    cases direction <;> cases other <;> decide
  exact Text.name_separator_inj plain differ same

theorem toString_bool_inj {value other : Bool} {rest more : Text}
    (same : (toString value).toList ++ '_' :: rest = (toString other).toList ++ '_' :: more) :
    value = other ∧ rest = more := by
  have plain : ∀ value : Bool, '_' ∉ (toString value).toList := by decide
  have differ : Function.Injective fun value : Bool => (toString value).toList := by
    intro value other
    cases value <;> cases other <;> decide
  exact Text.name_separator_inj plain differ same

/-- One of the names of a case has an underscore inside, but the two differ in their first letters. -/
theorem InputCase.name_inj {inputCase other : InputCase} {rest more : Text}
    (same : inputCase.name.toList ++ '_' :: rest = other.name.toList ++ '_' :: more) :
    inputCase = other ∧ rest = more := by
  cases inputCase with
  | cased =>
    cases other with
    | cased => simpa using same
    | lowerCased => simp [InputCase.name] at same
  | lowerCased =>
    cases other with
    | cased => simp [InputCase.name] at same
    | lowerCased => simpa using same

/-- A stage's name is told from what stands before it: no two stages end alike. -/
theorem Stage.name_inj {stage other : Stage} {front before : Text}
    (same : front ++ stage.name.toList = before ++ other.name.toList) :
    stage = other ∧ front = before := by
  have stages : stage = other := by
    have backwards := congrArg List.reverse same
    cases stage <;> cases other <;> simp [Stage.name] at backwards ⊢
  subst stages
  exact ⟨rfl, List.append_cancel_right same⟩

namespace GrammarKey

/-- What a whitelist adds to names: the stem of its file, if it has one. -/
def whitelistStem? (key : GrammarKey) : Option Text := key.whitelist?.bind FilePath.fileStem?

/-- The part of a name that tells the whitelist. -/
def stemPart : Option Text → Text
  | none => []
  | some stem => stem ++ ['_']

theorem stemPart_injective {stem? other? : Option Text} (same : stemPart stem? = stemPart other?) :
    stem? = other? := by
  cases stem? with
  | none =>
    cases other? with
    | none => rfl
    | some other => simp [stemPart] at same
  | some stem =>
    cases other? with
    | none => simp [stemPart] at same
    | some other => rw [List.append_cancel_right same]

/-- The name of a compiled grammar, written out. -/
theorem cacheFileName_eq (key : GrammarKey) (stage : Stage) :
    key.cacheFileName stage =
      key.language ++ '_' :: (key.direction.component.toList ++ '_' ::
        ((toString key.deterministic).toList ++ '_' :: (key.inputCase.name.toList ++ '_' ::
          (stemPart key.whitelistStem? ++ stage.name.toList ++ ".fst".toList)))) := by
  unfold cacheFileName nameParts
  change Text.joinBy ['_'] (_ ++ key.whitelistStem?.toList ++ _) ++ _ = _
  cases key.whitelistStem? <;> simp [Text.joinBy, stemPart]

/-- Compiled grammars share a name exactly if all that the names are made of is the same, for languages
without an underscore, as all those are that transducers are made for. The whitelist counts by the stem
of its file, which may be any text. -/
theorem cacheFileName_eq_iff :
    (∀ language ∈ GrammarRegistry.transducerLanguages, '_' ∉ language) ∧
    ∀ (key other : GrammarKey) (stage otherStage : Stage),
      '_' ∉ key.language → '_' ∉ other.language →
      (key.cacheFileName stage = other.cacheFileName otherStage ↔
        key.language = other.language ∧ key.direction = other.direction ∧
          key.deterministic = other.deterministic ∧ key.inputCase = other.inputCase ∧
          key.whitelistStem? = other.whitelistStem? ∧ stage = otherStage) := by
  refine ⟨by decide, ?_⟩
  intro key other stage otherStage plain alsoPlain
  rw [cacheFileName_eq, cacheFileName_eq]
  constructor
  · intro same
    obtain ⟨languages, same⟩ := Text.append_separator_inj plain alsoPlain same
    obtain ⟨directions, same⟩ := Direction.component_inj same
    obtain ⟨determinism, same⟩ := toString_bool_inj same
    obtain ⟨inputCases, same⟩ := InputCase.name_inj same
    obtain ⟨stages, same⟩ := Stage.name_inj (List.append_cancel_right same)
    exact ⟨languages, directions, determinism, inputCases, stemPart_injective same, stages⟩
  · rintro ⟨languages, directions, determinism, inputCases, stems, stages⟩
    rw [languages, directions, determinism, inputCases, stems, stages]

def listedKey (whitelist : String) : GrammarKey :=
  ⟨"en".toList, .normalize, .lowerCased, false, some whitelist.toList⟩

theorem cacheFileName_eq_iff_lists :
    '_' ∉ (listedKey "a/lower_cased_tokenize.tsv").language ∧
      '_' ∉ (listedKey "b/lower_cased_tokenize.txt").language ∧
      (listedKey "a/lower_cased_tokenize.tsv").cacheFileName .postProcess =
        (listedKey "b/lower_cased_tokenize.txt").cacheFileName .postProcess ∧
      (listedKey "a/lower_cased_tokenize.tsv").cacheFileName .postProcess ≠
        (listedKey "b/lower_cased.txt").cacheFileName .tokenize := by
  have plain : ∀ whitelist, '_' ∉ (listedKey whitelist).language := by
    intro whitelist
    simp [listedKey]
  refine ⟨plain _, plain _, ?_, ?_⟩
  · apply (cacheFileName_eq_iff.2 _ _ _ _ (plain _) (plain _)).mpr
    decide
  · intro same
    obtain ⟨-, -, -, -, -, stages⟩ :=
      (cacheFileName_eq_iff.2 _ _ _ _ (plain _) (plain _)).mp same
    cases stages

end GrammarKey

end SpokenForm
