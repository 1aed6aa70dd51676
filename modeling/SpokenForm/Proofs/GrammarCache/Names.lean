import SpokenForm.GrammarCache
import SpokenForm.Proofs.Files.Sibling

/-! The names that a cache gives to its files. A compiled grammar, its stamp and its unfinished form
lie in one directory under names that tell them apart from each other and from every source. -/
namespace SpokenForm

theorem Text.joinBy_concat (separator : Text) {pieces : List Text} (nonempty : pieces ≠ [])
    (last : Text) : joinBy separator (pieces ++ [last]) = joinBy separator pieces ++ separator ++ last := by
  induction pieces with
  | nil => exact absurd rfl nonempty
  | cons piece pieces ih =>
    cases pieces with
    | nil => simp [joinBy]
    | cons next pieces => simp_all [joinBy]

namespace GrammarCache

open FilePath

/-- What the name of a compiled grammar ends with before its extension. -/
def stageEnding (stage : Stage) : Text := '_' :: stage.name.toList

/-- The name of a compiled grammar without its extension. -/
def IsKeptStem (stem : Text) : Prop := '/' ∉ stem ∧ ∃ stage, stageEnding stage <:+ stem

def keptName (stem : Text) : Text := stem ++ '.' :: "fst".toList

def stampName (stem : Text) : Text := stem ++ '.' :: "fst.md5".toList

def unfinishedName (writer : Nat) (stem : Text) : Text :=
  stem ++ '.' :: ("fst." ++ toString writer ++ ".tmp").toList

theorem IsKeptStem.nonempty {stem : Text} (isStem : IsKeptStem stem) : stem ≠ [] := by
  rintro rfl
  obtain ⟨-, stage, ending⟩ := isStem
  simp [stageEnding] at ending

theorem IsKeptStem.isFileName {stem extension : Text} (isStem : IsKeptStem stem)
    (long : 1 < extension.length) (noSlash : '/' ∉ extension) :
    IsFileName (stem ++ '.' :: extension) := by
  have length : 3 < (stem ++ '.' :: extension).length := by
    have nonempty := List.length_pos_iff.mpr isStem.nonempty
    rw [List.length_append, List.length_cons]
    omega
  refine ⟨by simp, ?_, ?_, ?_⟩
  · simpa using ⟨isStem.1, noSlash⟩
  · intro same
    simp [same] at length
  · intro same
    simp [same] at length

theorem IsKeptStem.isFileName_keptName {stem : Text} (isStem : IsKeptStem stem) :
    IsFileName (keptName stem) := isStem.isFileName (by decide) (by decide)

theorem IsKeptStem.isFileName_stampName {stem : Text} (isStem : IsKeptStem stem) :
    IsFileName (stampName stem) := isStem.isFileName (by decide) (by decide)

theorem slash_notMem_toString (number : Nat) : '/' ∉ (toString number).toList := by
  intro member
  have digit := Nat.isDigit_of_mem_toDigits (b := 10) (by decide) (by decide)
    (by simpa [toString, Nat.repr] using member)
  exact absurd digit (by decide)

theorem IsKeptStem.isFileName_unfinishedName {stem : Text} (isStem : IsKeptStem stem)
    (writer : Nat) : IsFileName (unfinishedName writer stem) := by
  apply isStem.isFileName
  · simp
  · simpa using slash_notMem_toString writer

/-- The path of a compiled grammar, taken apart. -/
theorem cachedPath?_eq_some {cache : GrammarCache} {key : GrammarKey} {stage : Stage}
    {cached : FilePath} (kept : cache.cachedPath? key stage = some cached) :
    ∃ front stem, IsFront front ∧ IsKeptStem stem ∧ cached = front ++ keptName stem := by
  obtain ⟨directory, -, rfl⟩ := Option.map_eq_some_iff.mp kept
  have name : ∃ start, key.cacheFileName stage = start ++ (stageEnding stage ++ '.' :: "fst".toList) := by
    obtain ⟨parts, nonempty, same⟩ : ∃ parts, parts ≠ [] ∧
        key.nameParts stage = parts ++ [stage.name.toList] := ⟨_, by simp, rfl⟩
    refine ⟨Text.joinBy ['_'] parts, ?_⟩
    rw [GrammarKey.cacheFileName, same, Text.joinBy_concat _ nonempty]
    simp [stageEnding]
  obtain ⟨start, spelled⟩ := name
  have path : ∃ start, directory.join (key.cacheFileName stage) =
      start ++ (stageEnding stage ++ '.' :: "fst".toList) := by
    rw [spelled, join]
    split
    · exact ⟨start, rfl⟩
    · split
      · exact ⟨directory ++ start, by simp⟩
      · exact ⟨directory ++ '/' :: start, by simp⟩
  obtain ⟨start, whole⟩ := path
  obtain ⟨front, rest, rfl, isFront, noSlash⟩ := exists_front start
  have stemNoSlash : '/' ∉ rest ++ stageEnding stage := by
    have plain : '/' ∉ stageEnding stage := by cases stage <;> decide
    simpa using ⟨noSlash, plain⟩
  refine ⟨front, rest ++ stageEnding stage, isFront, ⟨stemNoSlash, stage, by simp⟩, ?_⟩
  rw [whole, keptName]
  simp

section Siblings

variable {front stem : Text} (isFront : IsFront front) (isStem : IsKeptStem stem)
include isFront isStem

theorem stampPath_append : stampPath (front ++ keptName stem) = front ++ stampName stem :=
  withExtension_append isFront isStem.isFileName_keptName isStem.nonempty (by decide) (by decide) _

theorem unfinishedPath_append (cache : GrammarCache) :
    cache.unfinishedPath (front ++ keptName stem) = front ++ unfinishedName cache.writer stem :=
  withExtension_append isFront isStem.isFileName_keptName isStem.nonempty (by decide) (by decide) _

end Siblings

/-! Names apart from each other. -/

theorem keptName_injective {stem other : Text} (same : keptName stem = keptName other) :
    stem = other := List.append_cancel_right same

theorem stampName_injective {stem other : Text} (same : stampName stem = stampName other) :
    stem = other := List.append_cancel_right same

theorem getLast?_keptName (stem : Text) : (keptName stem).getLast? = some 't' := by
  simp [keptName]

theorem getLast?_stampName (stem : Text) : (stampName stem).getLast? = some '5' := by
  simp [stampName]

theorem getLast?_unfinishedName (writer : Nat) (stem : Text) :
    (unfinishedName writer stem).getLast? = some 'p' := by
  have whole : unfinishedName writer stem =
      (stem ++ '.' :: ("fst." ++ toString writer ++ ".tm").toList) ++ ['p'] := by
    simp [unfinishedName]
  rw [whole, List.getLast?_concat]

theorem keptName_ne_stampName (stem other : Text) : keptName stem ≠ stampName other := by
  intro same
  have ends := congrArg List.getLast? same
  simp [getLast?_keptName, getLast?_stampName] at ends

theorem keptName_ne_unfinishedName (stem : Text) (writer : Nat) (other : Text) :
    keptName stem ≠ unfinishedName writer other := by
  intro same
  have ends := congrArg List.getLast? same
  simp [getLast?_keptName, getLast?_unfinishedName] at ends

theorem stampName_ne_unfinishedName (stem : Text) (writer : Nat) (other : Text) :
    stampName stem ≠ unfinishedName writer other := by
  intro same
  have ends := congrArg List.getLast? same
  simp [getLast?_stampName, getLast?_unfinishedName] at ends

theorem unfinishedName_injective {writer other : Nat} {stem : Text}
    (same : unfinishedName writer stem = unfinishedName other stem) : writer = other := by
  have digits : Nat.toDigits 10 writer = Nat.toDigits 10 other := by
    simpa [unfinishedName] using same
  calc writer = Nat.ofDigitChars 10 (Nat.toDigits 10 writer) 0 := Nat.ofDigitChars_ten_toDigits.symm
    _ = Nat.ofDigitChars 10 (Nat.toDigits 10 other) 0 := by rw [digits]
    _ = other := Nat.ofDigitChars_ten_toDigits

/-! Names apart from those of sources. -/

def sourceNames : List Text :=
  [Stage.tokenize, .verbalize, .postProcess].flatMap fun stage =>
    [stage.name ++ "_non_deterministic", stage.name].flatMap fun stem =>
      [(stem ++ ".fst").toList, (stem ++ ".fst.txt").toList]

theorem keptName_notMem_sourceNames {stem : Text} (isStem : IsKeptStem stem) :
    keptName stem ∉ sourceNames := by
  intro member
  obtain ⟨-, stage, start, rfl⟩ := isStem
  have ending : (stageEnding stage ++ '.' :: "fst".toList).isSuffixOf
      (keptName (start ++ stageEnding stage)) = true := by
    rw [List.isSuffixOf_iff_suffix, keptName, List.append_assoc]
    exact List.suffix_append _ _
  have none : ∀ name ∈ sourceNames, ∀ stage ∈ [Stage.tokenize, .verbalize, .postProcess],
      (stageEnding stage ++ '.' :: "fst".toList).isSuffixOf name = false := by decide +kernel
  have listed : stage ∈ [Stage.tokenize, .verbalize, .postProcess] := by cases stage <;> decide
  exact Bool.false_ne_true ((none _ member stage listed).symm.trans ending)

theorem getLast?_of_mem_sourceNames {name : Text} (listed : name ∈ sourceNames) :
    name.getLast? = some 't' := by
  obtain ⟨stage, -, ofStage⟩ := List.mem_flatMap.mp listed
  obtain ⟨stem, -, ofStem⟩ := List.mem_flatMap.mp ofStage
  rcases List.mem_cons.mp ofStem with rfl | spelled
  · simp
  · obtain rfl := List.mem_singleton.mp spelled
    simp

theorem stampName_notMem_sourceNames (stem : Text) : stampName stem ∉ sourceNames := by
  intro member
  have ends := (getLast?_stampName stem).symm.trans (getLast?_of_mem_sourceNames member)
  exact absurd ends (by decide)

theorem unfinishedName_notMem_sourceNames (writer : Nat) (stem : Text) :
    unfinishedName writer stem ∉ sourceNames := by
  intro member
  have ends := (getLast?_unfinishedName writer stem).symm.trans (getLast?_of_mem_sourceNames member)
  exact absurd ends (by decide)

theorem isFileName_of_mem_sourceNames {name : Text} (listed : name ∈ sourceNames) :
    IsFileName name := by
  have plain : ∀ name ∈ sourceNames, '/' ∉ name := by simp [sourceNames, Stage.name]
  have ends := getLast?_of_mem_sourceNames listed
  refine ⟨?_, plain name listed, ?_, ?_⟩ <;> rintro rfl <;> simp at ends

theorem mem_sourceNames {stage : Stage} {stem : String}
    (stems : stem = stage.name ++ "_non_deterministic" ∨ stem = stage.name) {name : Text}
    (spelled : name = (stem ++ ".fst").toList ∨ name = (stem ++ ".fst.txt").toList) :
    name ∈ sourceNames := by
  have listed : stage ∈ [Stage.tokenize, .verbalize, .postProcess] := by cases stage <;> decide
  refine List.mem_flatMap.mpr ⟨stage, listed, List.mem_flatMap.mpr ⟨stem, ?_, ?_⟩⟩
  · simpa using stems
  · simpa using spelled

theorem exists_name_of_candidate {cache : GrammarCache} {key : GrammarKey} {stage : Stage}
    {path : FilePath} (candidate : path ∈ cache.sourceCandidates key stage) :
    ∃ name ∈ sourceNames, path = (cache.stageDirectory key).join name := by
  obtain ⟨stem, isStem, member⟩ := List.mem_flatMap.mp candidate
  have stems : stem = stage.name ++ "_non_deterministic" ∨ stem = stage.name := by
    unfold sourceStems at isStem
    split at isStem
    · exact .inr (List.mem_singleton.mp isStem)
    · simpa using isStem
  rcases List.mem_cons.mp member with rfl | spelled
  · exact ⟨_, mem_sourceNames stems (.inl rfl), rfl⟩
  · obtain rfl := List.mem_singleton.mp spelled
    exact ⟨_, mem_sourceNames stems (.inr rfl), rfl⟩

/-- The paths that some cache takes sources from. -/
def IsSource (path : FilePath) : Prop :=
  ∃ (cache : GrammarCache) (key : GrammarKey) (stage : Stage), path ∈ cache.sourceCandidates key stage

theorem IsSource.exists_name {path : FilePath} (isSource : IsSource path) :
    ∃ front name, IsFront front ∧ IsFileName name ∧ name ∈ sourceNames ∧ path = front ++ name := by
  obtain ⟨cache, key, stage, candidate⟩ := isSource
  obtain ⟨name, listed, rfl⟩ := exists_name_of_candidate candidate
  have isName := isFileName_of_mem_sourceNames listed
  obtain ⟨front, isFront, below⟩ := exists_front_of_directory (cache.stageDirectory key)
  exact ⟨front, name, isFront, isName, listed, below name isName⟩

end GrammarCache

end SpokenForm
