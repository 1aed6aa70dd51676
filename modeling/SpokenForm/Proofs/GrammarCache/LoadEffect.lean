import Mathlib.Data.List.Find
import SpokenForm.Proofs.GrammarCache.Answering
import SpokenForm.Proofs.GrammarCache.Transparency

/-! What a load does to the files. Only a load that compiles changes any: the kept grammar, its stamp and
its unfinished form, and never a source. When it has kept what it compiled, the next load finds it. -/
namespace SpokenForm

open FilePath FileStore

namespace GrammarCache

variable {cache : GrammarCache} {key : GrammarKey} {stage : Stage} {store later : FileStore}
  {source cached : FilePath} {contents : ByteArray} {digest : Text} {machine : Transducer Weight}
  {outcome : Except GrammarError (Option (Transducer Weight))}

/-- A kept grammar, its stamp and its unfinished form have their places side by side, in any store. -/
theorem places_of_cachedPath? (place : cache.cachedPath? key stage = some cached) :
    ∃ front stem, IsFront front ∧ IsKeptStem stem ∧ cached = front ++ keptName stem ∧
      ∀ store : FileStore,
        store.placeOf cached = store.placeAbove front ++ [keptName stem] ∧
        store.placeOf (stampPath cached) = store.placeAbove front ++ [stampName stem] ∧
        store.placeOf (cache.unfinishedPath cached) =
          store.placeAbove front ++ [unfinishedName cache.writer stem] := by
  obtain ⟨front, stem, isFront, isStem, rfl⟩ := cachedPath?_eq_some place
  refine ⟨front, stem, isFront, isStem, rfl, fun store => ⟨?_, ?_, ?_⟩⟩
  · exact store.placeOf_append isFront isStem.isFileName_keptName
  · rw [stampPath_append isFront isStem, store.placeOf_append isFront isStem.isFileName_stampName]
  · rw [unfinishedPath_append isFront isStem,
      store.placeOf_append isFront (isStem.isFileName_unfinishedName _)]

/-- Keeping a compiled grammar, with its outcome. -/
def storing (cache : GrammarCache) (cached : FilePath) (machine : Transducer Weight) (digest : Text) :
    FileScript (Except FileError Unit) := do
  let prepared ← FileScript.makeParent cached
  let unfinished := cache.unfinishedPath cached
  let written ← FileScript.unlessFailed prepared
    (FileScript.writeBytes unfinished machine.toBytes)
  let moved ← FileScript.unlessFailed written (FileScript.move unfinished cached)
  FileScript.unlessFailed moved (FileScript.writeBytes (stampPath cached) (Text.toUtf8 digest))

theorem run_store (cache : GrammarCache) (cached : FilePath) (machine : Transducer Weight)
    (digest : Text) (store : FileStore) :
    (cache.store cached machine digest).run store =
      ((), ((cache.storing cached machine digest).run store).2) := by
  simp [GrammarCache.store, storing]

/-- The steps of keeping a compiled grammar, when all of them succeed. -/
structure StoringSteps (cache : GrammarCache) (cached : FilePath) (machine : Transducer Weight)
    (digest : Text) (store opened written moved later : FileStore) : Prop where
  adds : AddsDirectories store opened
  wrote : opened.write (cache.unfinishedPath cached) machine.toBytes = .ok written
  renamed : written.rename (cache.unfinishedPath cached) cached = .ok moved
  stamped : moved.write (stampPath cached) (Text.toUtf8 digest) = .ok later

theorem steps_of_storing
    (succeeded : ((cache.storing cached machine digest).run store).1 = .ok ()) :
    ∃ opened written moved, StoringSteps cache cached machine digest store opened written moved
      ((cache.storing cached machine digest).run store).2 := by
  unfold storing at succeeded ⊢
  simp only [FileScript.run_bind] at succeeded ⊢
  rcases FileScript.run_makeParent cached store with ⟨prepared, adds⟩ | ⟨⟨cause, failed⟩, unchanged⟩
  · simp only [prepared] at succeeded ⊢
    generalize ((FileScript.makeParent cached).run store).2 = opened at adds succeeded ⊢
    cases wrote : opened.write (cache.unfinishedPath cached) machine.toBytes with
    | error cause => simp [wrote] at succeeded
    | ok written =>
      cases renamed : written.rename (cache.unfinishedPath cached) cached with
      | error cause => simp [wrote, renamed] at succeeded
      | ok moved =>
        cases stamped : moved.write (stampPath cached) (Text.toUtf8 digest) with
        | error cause => simp [wrote, renamed, stamped] at succeeded
        | ok later =>
          refine ⟨opened, written, moved, adds, wrote, renamed, ?_⟩
          simp [wrote, renamed, stamped]
  · simp [failed] at succeeded

namespace StoringSteps

variable {opened written moved : FileStore}

theorem keepsDirectories
    (steps : StoringSteps cache cached machine digest store opened written moved later) :
    KeepsDirectories store later := by
  have writing := keepsDirectories_of_write steps.wrote
  have moving := keepsDirectories_of_rename steps.renamed
  have stamping := keepsDirectories_of_write steps.stamped
  exact ((steps.adds.keepsDirectories.trans writing).trans moving).trans stamping

theorem read_stamp (steps : StoringSteps cache cached machine digest store opened written moved later) :
    later.read (stampPath cached) = .ok (Text.toUtf8 digest) := read_written steps.stamped

theorem read_cached (steps : StoringSteps cache cached machine digest store opened written moved later)
    (apart : moved.placeOf cached ≠ moved.placeOf (stampPath cached)) :
    later.read cached = .ok machine.toBytes :=
  read_of_write steps.stamped apart (read_renamed steps.renamed (read_written steps.wrote))

end StoringSteps

/-- A grammar that was kept without a failure is there, under its digest. -/
theorem stamped_of_storing (place : cache.cachedPath? key stage = some cached)
    (succeeded : ((cache.storing cached machine (Digest.hex contents)).run store).1 = .ok ())
    (readsBack : Transducer.ofBytes? machine.toBytes = some machine) :
    KeepsDirectories store ((cache.storing cached machine (Digest.hex contents)).run store).2 ∧
      Stamped ((cache.storing cached machine (Digest.hex contents)).run store).2 cached
        (Digest.hex contents) machine := by
  obtain ⟨opened, written, moved, steps⟩ := steps_of_storing succeeded
  have apart : moved.placeOf cached ≠ moved.placeOf (stampPath cached) := by
    obtain ⟨front, stem, -, -, -, places⟩ := places_of_cachedPath? place
    obtain ⟨grammarAt, stampAt, -⟩ := places moved
    rw [grammarAt, stampAt]
    simpa using keptName_ne_stampName stem stem
  refine ⟨steps.keepsDirectories, ⟨_, steps.read_stamp, Digest.trim_hex contents⟩, ?_⟩
  exact ⟨_, steps.read_cached apart, readsBack⟩

/-! Sources. -/

/-- The source that is found stays the one that is found, if no source changes. -/
theorem source?_of_sameFile (keeps : KeepsDirectories store later)
    (same : ∀ path, IsSource path → SameFile store later (store.placeOf path))
    (found : cache.source? key stage store = some source) :
    cache.source? key stage later = some source := by
  obtain ⟨front, isFront, below⟩ := exists_front_of_directory (cache.stageDirectory key)
  have spelled : ∀ path ∈ cache.sourceCandidates key stage,
      ∃ name, IsFileName name ∧ path = front ++ name := by
    intro path candidate
    obtain ⟨name, listed, rfl⟩ := exists_name_of_candidate candidate
    have isName := isFileName_of_mem_sourceNames listed
    exact ⟨name, isName, below name isName⟩
  -- a source was found in their directory, so all of them can be reached
  have reached : ∀ path ∈ cache.sourceCandidates key stage,
      store.locate path = .ok (store.placeOf path) := by
    obtain ⟨sourceName, isSourceName, rfl⟩ := spelled source (List.mem_of_find?_eq_some found)
    obtain ⟨contents, held⟩ := read_source found
    intro path candidate
    obtain ⟨name, isName, rfl⟩ := spelled path candidate
    exact locate_sibling isFront isSourceName isName (read_eq_ok_iff.mp held).1
  have alike : ∀ path ∈ cache.sourceCandidates key stage, later.isFile path = store.isFile path := by
    intro path candidate
    have unchanged := same path ⟨cache, key, stage, candidate⟩
    apply Bool.eq_iff_iff.mpr
    rw [isFile_iff, isFile_iff]
    constructor
    · rintro ⟨bytes, held⟩
      have present := (read_eq_ok_iff.mp held).2
      rw [keeps.placeOf] at present
      exact ⟨bytes, read_eq_ok_iff.mpr ⟨reached path candidate, (unchanged bytes).mp present⟩⟩
    · rintro ⟨bytes, held⟩
      exact ⟨bytes, unchanged.read keeps held⟩
  have again : (cache.sourceCandidates key stage).find? (later.isFile ·) =
      (cache.sourceCandidates key stage).find? (store.isFile ·) := List.find?_congr alike
  exact again.trans found

/-! Loads. -/

/-- The same cache, for a process of its own, with what is kept reused. -/
def reusing (cache : GrammarCache) (writer : Nat) : GrammarCache :=
  { cache with overwrite := false, writer := writer }

/-- A load finds what was kept for the source as it is. -/
theorem load_of_stamped (writer : Nat) (place : cache.cachedPath? key stage = some cached)
    (found : cache.source? key stage store = some source) (held : store.read source = .ok contents)
    (stamped : Stamped store cached (Digest.hex contents) machine) :
    (cache.reusing writer).AnsweredFromCache key stage store ∧
      ((cache.reusing writer).load key stage).run store = (.ok (some machine), store) := by
  have alsoPlace : (cache.reusing writer).cachedPath? key stage = some cached := place
  have alsoFound : (cache.reusing writer).source? key stage store = some source := found
  refine ⟨.stamped rfl alsoPlace alsoFound held stamped, ?_⟩
  have hit : (((cache.reusing writer).fromCache cached (Digest.hex contents)).run store).1 =
      some machine := fromCache_eq_some_iff.mpr ⟨rfl, stamped⟩
  rw [run_load_source alsoFound, alsoPlace, run_loadSource_hit held hit]
  rfl

/-- A load leaves all files alone but those that it keeps its grammar in. -/
theorem LoadCourse.elsewhere (course : LoadCourse cache key stage store outcome later) {place : Place}
    (apart : ∀ cached, cache.cachedPath? key stage = some cached →
      place ≠ store.placeOf cached ∧ place ≠ store.placeOf (stampPath cached) ∧
        place ≠ store.placeOf (cache.unfinishedPath cached)) : SameFile store later place := by
  cases course with
  | absent | answered | failed | unkept => exact .refl store place
  | kept compiles =>
    obtain ⟨fromGrammar, fromStamp, fromUnfinished⟩ := apart _ compiles.place
    obtain ⟨front, stem, isFront, isStem, rfl, places⟩ := places_of_cachedPath? compiles.place
    obtain ⟨grammarAt, stampAt, unfinishedAt⟩ := places store
    rw [grammarAt] at fromGrammar
    rw [stampAt] at fromStamp
    rw [unfinishedAt] at fromUnfinished
    exact (storeEffect_store isFront isStem cache _ _ store).elsewhere place fromUnfinished
      fromGrammar fromStamp

/-- No load changes a source, of whatever cache. -/
theorem LoadCourse.sources (course : LoadCourse cache key stage store outcome later) {path : FilePath}
    (isSource : IsSource path) : SameFile store later (store.placeOf path) := by
  apply course.elsewhere
  intro cached place
  obtain ⟨front, stem, -, isStem, -, places⟩ := places_of_cachedPath? place
  obtain ⟨grammarAt, stampAt, unfinishedAt⟩ := places store
  rw [grammarAt, stampAt, unfinishedAt]
  have apart {name : Text} (noSource : name ∉ sourceNames) :
      store.placeOf path ≠ store.placeAbove front ++ [name] :=
    (isSource.place_ne noSource store (store.placeAbove front)).symm
  exact ⟨apart (keptName_notMem_sourceNames isStem), apart (stampName_notMem_sourceNames stem),
    apart (unfinishedName_notMem_sourceNames cache.writer stem)⟩

/-- A load that does not compile, or has no place to keep its grammar in, changes nothing. -/
theorem LoadCourse.unchanged (course : LoadCourse cache key stage store outcome later)
    (reason : (∃ fault, outcome = .error fault) ∨ outcome = .ok none ∨
      cache.AnsweredFromCache key stage store ∨ cache.cacheDirectory? = none) : later = store := by
  cases course with
  | absent | answered | failed | unkept => rfl
  | kept compiles =>
    rcases reason with ⟨fault, failed⟩ | absent | answered | nowhere
    · cases failed
    · cases absent
    · exact absurd answered compiles.missed
    · have place := compiles.place
      simp [cachedPath?, nowhere] at place

theorem LoadCourse.of_answered (course : LoadCourse cache key stage store outcome later)
    (answered : cache.AnsweredFromCache key stage store) :
    ∃ cached, cache.cachedPath? key stage = some cached ∧
      outcome = (Transducer.afterReading .read Transducer.decodeBinary (store.read cached)).map some := by
  cases course with
  | absent missed => exact absurd answered missed
  | answered _ place => exact ⟨_, place, rfl⟩
  | failed fault missed => exact absurd answered missed
  | unkept machine nowhere =>
    obtain ⟨-, cached, place⟩ := answered.exists_place
    simp [place] at nowhere
  | kept compiles => exact absurd answered compiles.missed

/-- A load that compiles comes to what it compiled, and keeps it. -/
theorem Compiles.run_load (compiles : Compiles cache key stage store source cached contents machine) :
    (cache.load key stage).run store =
      (.ok (some machine), ((cache.storing cached machine (Digest.hex contents)).run store).2) := by
  obtain ⟨found, held, place, missed, decoded⟩ := compiles
  have miss : ((cache.fromCache cached (Digest.hex contents)).run store).1 = none := by
    cases hit : ((cache.fromCache cached (Digest.hex contents)).run store).1 with
    | none => rfl
    | some other => exact absurd ((answeredFromCache_iff found held place).mpr ⟨other, hit⟩) missed
  rw [run_load_source found, place, run_loadSource_miss held miss, decoded]
  simp only [run_store, Except.map]

/-- What was kept without a failure stands for the source, which is still the one that is found. -/
theorem Compiles.stands (compiles : Compiles cache key stage store source cached contents machine)
    (succeeded : ((cache.storing cached machine (Digest.hex contents)).run store).1 = .ok ())
    (readsBack : Transducer.ofBytes? machine.toBytes = some machine)
    (kept : ((cache.storing cached machine (Digest.hex contents)).run store).2 = later) :
    cache.source? key stage later = some source ∧ later.read source = .ok contents ∧
      Stamped later cached (Digest.hex contents) machine := by
  have course := course_load cache key stage store
  rw [compiles.run_load, kept] at course
  obtain ⟨keeps, stamped⟩ := stamped_of_storing compiles.place succeeded readsBack
  rw [kept] at keeps stamped
  have isSource : IsSource source := ⟨cache, key, stage, List.mem_of_find?_eq_some compiles.found⟩
  have found := source?_of_sameFile keeps (fun _ => course.sources) compiles.found
  exact ⟨found, (course.sources isSource).read keeps compiles.held, stamped⟩

/-- Every load leaves all files as they were but the kept grammar, its stamp and its unfinished form, and
none of these is a source. A load that fails, finds nothing, is answered from the cache or has no place
to keep grammars in leaves the store as it was. A load that compiles and keeps what it compiled without
a failure leaves its source the one that is found; and while the source, the kept grammar and its stamp
stay as they are, every load that may reuse what is kept is answered from the cache, with the same machine
and without a change, if machines are read back as they are written. -/
theorem load_effect (ran : (cache.load key stage).run store = (outcome, later)) :
    ((∃ fault, outcome = .error fault) ∨ outcome = .ok none ∨ cache.AnsweredFromCache key stage store ∨
      cache.cacheDirectory? = none → later = store) ∧
    (cache.AnsweredFromCache key stage store →
      ∃ cached, cache.cachedPath? key stage = some cached ∧
        outcome =
          (Transducer.afterReading .read Transducer.decodeBinary (store.read cached)).map some) ∧
    (∀ place,
      (∀ cached, cache.cachedPath? key stage = some cached →
        place ≠ store.placeOf cached ∧ place ≠ store.placeOf (stampPath cached) ∧
          place ≠ store.placeOf (cache.unfinishedPath cached)) →
      SameFile store later place) ∧
    (∀ path, IsSource path → SameFile store later (store.placeOf path)) ∧
    ∀ source cached contents machine,
      Compiles cache key stage store source cached contents machine →
      outcome = .ok (some machine) ∧
      later = ((cache.storing cached machine (Digest.hex contents)).run store).2 ∧
      (((cache.storing cached machine (Digest.hex contents)).run store).1 = .ok () →
        Transducer.ofBytes? machine.toBytes = some machine →
        cache.source? key stage later = some source ∧ later.read source = .ok contents ∧
        ∀ writer between, cache.source? key stage between = some source →
          between.read source = later.read source → between.read cached = later.read cached →
          between.read (stampPath cached) = later.read (stampPath cached) →
          (cache.reusing writer).AnsweredFromCache key stage between ∧
            ((cache.reusing writer).load key stage).run between = (outcome, between)) := by
  have course := course_load cache key stage store
  rw [ran] at course
  refine ⟨course.unchanged, course.of_answered, fun _ => course.elsewhere, fun _ => course.sources, ?_⟩
  intro source cached contents machine compiles
  obtain ⟨own, kept⟩ := Prod.mk.inj (ran.symm.trans compiles.run_load)
  refine ⟨own, kept, ?_⟩
  intro succeeded readsBack
  obtain ⟨found, held, stamped⟩ := compiles.stands succeeded readsBack kept.symm
  refine ⟨found, held, ?_⟩
  intro writer between alsoFound sourceSame grammarSame stampSame
  rw [own]
  exact load_of_stamped writer compiles.place alsoFound (sourceSame.trans held)
    (stamped.of_reads stampSame grammarSame)

/-- A store with one source for the small cache, where nothing is kept so far. -/
def letterStore : FileStore :=
  ⟨[], [(["g".toList], .directory), (["g".toList, "en".toList], .directory),
    (["g".toList, "en".toList, "tn".toList], .directory),
    (["g".toList, "en".toList, "tn".toList, "tokenize.fst.txt".toList], .file (letterSource 98))]⟩

def letterPath : FilePath := "c/en_tn_true_cased_tokenize.fst".toList

theorem compiles_letterStore :
    Compiles (plainCache 1) plainKey .tokenize letterStore textSource letterPath (letterSource 98)
      (letterMachine 98) := by
  have found : (plainCache 1).source? plainKey .tokenize letterStore = some textSource := by
    decide +kernel
  have held : letterStore.read textSource = .ok (letterSource 98) := by decide +kernel
  have place : (plainCache 1).cachedPath? plainKey .tokenize = some letterPath := by decide +kernel
  refine ⟨found, held, place, ?_, by decide +kernel⟩
  rw [answeredFromCache_iff found held place]
  rintro ⟨machine, hit⟩
  have nothing : (((plainCache 1).fromCache letterPath (Digest.hex (letterSource 98))).run
      letterStore).1 = none := by decide +kernel
  simp [nothing] at hit

theorem load_effect_letter :
    (((plainCache 1).load plainKey .tokenize).run letterStore).1 = .ok (some (letterMachine 98)) ∧
      letterStore.read letterPath = .error .notFound ∧
      ((plainCache 1).reusing 2).AnsweredFromCache plainKey .tokenize
        (((plainCache 1).load plainKey .tokenize).run letterStore).2 ∧
      (((plainCache 1).reusing 2).load plainKey .tokenize).run
          (((plainCache 1).load plainKey .tokenize).run letterStore).2 =
        (.ok (some (letterMachine 98)), (((plainCache 1).load plainKey .tokenize).run letterStore).2) := by
  have effect := load_effect
    (rfl : ((plainCache 1).load plainKey .tokenize).run letterStore = (_, _))
  obtain ⟨own, -, reusable⟩ := effect.2.2.2.2 textSource letterPath (letterSource 98)
    (letterMachine 98) compiles_letterStore
  obtain ⟨found, -, again⟩ := reusable (by decide +kernel) (by decide +kernel)
  obtain ⟨answered, ran⟩ := again 2 _ found rfl rfl rfl
  exact ⟨own, by decide +kernel, answered, own ▸ ran⟩

end GrammarCache

end SpokenForm
