import SpokenForm.Proofs.GrammarCache.Loading
import SpokenForm.Proofs.GrammarCache.Storing

/-! A cache of grammars is not noticed: what is loaded through it is what would be compiled without it,
whatever was loaded and whatever became of the sources before. The stamp of a kept grammar carries this:
it is the digest of the very contents that the grammar was compiled from. -/
namespace SpokenForm

theorem Digest.hexByte_solid (byte : UInt8) : ∀ c ∈ hexByte byte, Unicode.isWhitespace c = false := by
  have digits : ∀ digit < 16, Unicode.isWhitespace (Nat.digitChar digit) = false := by decide
  have high : byte.toNat / 16 < 16 := by
    have bound := byte.toNat_lt
    omega
  intro c member
  rcases List.mem_cons.mp member with rfl | last
  · exact digits _ high
  · obtain rfl := List.mem_singleton.mp last
    exact digits _ (Nat.mod_lt _ (by decide))

/-- Trimming does not change a digest. -/
theorem Digest.trim_hex (bytes : ByteArray) : Text.trim (hex bytes) = hex bytes := by
  have solid : ∀ c ∈ hex bytes, Unicode.isWhitespace c = false := by
    intro c member
    obtain ⟨word, -, inWord⟩ := List.mem_flatMap.mp member
    obtain ⟨byte, -, inByte⟩ := List.mem_flatMap.mp inWord
    exact hexByte_solid byte c inByte
  have starts : ∀ c ∈ (hex bytes).head?, Unicode.isWhitespace c = false := fun c first =>
    solid c (List.mem_of_mem_head? first)
  have ends : ∀ c ∈ (hex bytes).getLast?, Unicode.isWhitespace c = false := fun c last =>
    solid c (List.mem_of_mem_getLast? last)
  simpa using @Text.trim_between [] (hex bytes) [] (by simp) (by simp) starts ends

namespace GrammarCache

open FilePath FileStore

/-- What happens to the files that caches and sources share: sources come, are copied and go,
directories are made, and grammars are loaded. -/
inductive CacheEvent where
  | write (path : FilePath) (isSource : IsSource path) (bytes : ByteArray)
  | copy (origin path : FilePath) (isSource : IsSource path)
  | remove (path : FilePath) (isSource : IsSource path)
  | makeDirectories (path : FilePath)
  | load (cache : GrammarCache) (key : GrammarKey) (stage : Stage)

/-- A grammar that was compiled, or could have been: where it is kept, and its source, with what the
source held and what it came to. -/
structure Compilation where
  place : Place
  source : FilePath
  contents : ByteArray
  machine : Transducer Weight

namespace CacheEvent

/-- The store behind an event; an event that fails has no effect. -/
def apply (store : FileStore) : CacheEvent → FileStore
  | write path _ bytes => (FileScript.attempt store (store.write path bytes)).2
  | copy origin path _ => (FileScript.attempt store (store.read origin >>= store.write path)).2
  | remove path _ => (FileScript.attempt store (store.remove path)).2
  | makeDirectories path => (FileScript.attempt store (store.createDirectories path)).2
  | load cache key stage => ((cache.load key stage).run store).2

def applyAll (store : FileStore) (history : List CacheEvent) : FileStore := history.foldl apply store

/-- The compilation that a load asks for. -/
def compilation? (store : FileStore) : CacheEvent → Option Compilation
  | load cache key stage => do
    let source ← cache.source? key stage store
    let cached ← cache.cachedPath? key stage
    let contents ← (store.read source).toOption
    let machine ← (Transducer.decodeNamed source contents).toOption
    return ⟨store.placeOf cached, source, contents, machine⟩
  | _ => none

def compilations (store : FileStore) : List CacheEvent → List Compilation
  | [] => []
  | event :: rest => (event.compilation? store).toList ++ compilations (event.apply store) rest

end CacheEvent

/-- A stamp in a directory is the digest of the contents that the grammar beside it was compiled
from. -/
def Faithful (directory : Place) (stem : Text) (log : List Compilation) (store : FileStore) : Prop :=
  ∀ stamp, store.entry? (directory ++ [stampName stem]) = some (.file stamp) →
    ∃ earlier ∈ log, earlier.place = directory ++ [keptName stem] ∧
      stamp = Text.toUtf8 (Digest.hex earlier.contents) ∧
      Transducer.decodeNamed earlier.source earlier.contents = .ok earlier.machine ∧
      store.entry? (directory ++ [keptName stem]) = some (.file earlier.machine.toBytes)

variable {store later : FileStore} {directory : Place} {stem : Text} {log : List Compilation}
  {cache : GrammarCache} {key : GrammarKey} {stage : Stage} {event : CacheEvent}

theorem Faithful.of_sameFile (faithful : Faithful directory stem log store) (more : List Compilation)
    (grammar : SameFile store later (directory ++ [keptName stem]))
    (stamp : SameFile store later (directory ++ [stampName stem])) :
    Faithful directory stem (log ++ more) later := by
  intro held present
  obtain ⟨earlier, logged, place, spelled, decoded, kept⟩ := faithful held ((stamp held).mp present)
  exact ⟨earlier, List.mem_append_left _ logged, place, spelled, decoded, (grammar _).mpr kept⟩

/-- A file that is no source is at no source's place. -/
theorem IsSource.place_ne {path : FilePath} (isSource : IsSource path) {name : Text}
    (noSource : name ∉ sourceNames) (store : FileStore) (directory : Place) :
    directory ++ [name] ≠ store.placeOf path := by
  obtain ⟨front, sourceName, isFront, isName, listed, rfl⟩ := isSource.exists_name
  rw [store.placeOf_append isFront isName]
  intro same
  have names : name = sourceName := by simpa using (List.append_inj' same rfl).2
  exact noSource (names ▸ listed)

theorem sameFile_attempt {change : Except FileError FileStore} {place : Place}
    (succeeds : ∀ changed, change = .ok changed → SameFile store changed place) :
    SameFile store (FileScript.attempt store change).2 place := by
  cases outcome : change with
  | error cause => exact .refl store place
  | ok changed => exact succeeds changed outcome

theorem workingDirectory_attempt {change : Except FileError FileStore}
    (succeeds : ∀ changed, change = .ok changed → changed.workingDirectory = store.workingDirectory) :
    (FileScript.attempt store change).2.workingDirectory = store.workingDirectory := by
  cases outcome : change with
  | error cause => rfl
  | ok changed => exact succeeds changed outcome

theorem exists_written {origin path : FilePath} {changed : FileStore}
    (copied : (store.read origin >>= store.write path) = .ok changed) :
    ∃ bytes, store.write path bytes = .ok changed := by
  cases held : store.read origin with
  | error cause => simp [held, bind, Except.bind] at copied
  | ok bytes => exact ⟨bytes, by simpa [held, bind, Except.bind] using copied⟩

/-- Sources may change, and directories may be made, without an effect on what is no source. -/
theorem sameFile_apply (event : CacheEvent) (noLoad : ∀ cache key stage, event ≠ .load cache key stage)
    {name : Text} (noSource : name ∉ sourceNames) (store : FileStore) (directory : Place) :
    SameFile store (event.apply store) (directory ++ [name]) := by
  cases event with
  | write path isSource bytes =>
    exact sameFile_attempt fun changed written =>
      sameFile_of_write written (isSource.place_ne noSource store directory)
  | copy origin path isSource =>
    refine sameFile_attempt fun changed copied => ?_
    obtain ⟨bytes, written⟩ := exists_written copied
    exact sameFile_of_write written (isSource.place_ne noSource store directory)
  | remove path isSource =>
    exact sameFile_attempt fun changed removed =>
      sameFile_of_remove removed (isSource.place_ne noSource store directory)
  | makeDirectories path =>
    exact sameFile_attempt fun changed made => (createDirectories_eq_ok made).sameFile _
  | load cache key stage => exact absurd rfl (noLoad cache key stage)

/-- What a load does to the store: nothing, or it keeps what it compiled. -/
theorem load_keeps (cache : GrammarCache) (key : GrammarKey) (stage : Stage) (store : FileStore) :
    ((cache.load key stage).run store).2 = store ∨
      ∃ source cached contents machine, cache.cachedPath? key stage = some cached ∧
        (CacheEvent.load cache key stage).compilation? store =
          some ⟨store.placeOf cached, source, contents, machine⟩ ∧
        Transducer.decodeNamed source contents = .ok machine ∧
        ((cache.load key stage).run store).2 =
          ((cache.store cached machine (Digest.hex contents)).run store).2 := by
  cases found : cache.source? key stage store with
  | none => exact .inl (run_load_none found)
  | some source =>
    obtain ⟨contents, held⟩ := read_source found
    rw [run_load_source found]
    cases kept : cache.cachedPath? key stage with
    | none => exact .inl (by simp [run_loadSource_none held])
    | some cached =>
      cases hit : ((cache.fromCache cached (Digest.hex contents)).run store).1 with
      | some machine => exact .inl (by simp [run_loadSource_hit held hit])
      | none =>
        cases decoded : Transducer.decodeNamed source contents with
        | error fault => exact .inl (by simp [run_loadSource_miss held hit, decoded])
        | ok machine =>
          refine .inr ⟨source, cached, contents, machine, rfl, ?_, decoded, ?_⟩
          · simp [CacheEvent.compilation?, found, kept, held, decoded, Except.toOption]
          · simp [run_loadSource_miss held hit, decoded]

theorem workingDirectory_apply (event : CacheEvent) (store : FileStore) :
    (event.apply store).workingDirectory = store.workingDirectory := by
  cases event with
  | write path isSource bytes =>
    exact workingDirectory_attempt fun changed written =>
      (keepsDirectories_of_write written).workingDirectory
  | copy origin path isSource =>
    refine workingDirectory_attempt fun changed copied => ?_
    obtain ⟨bytes, written⟩ := exists_written copied
    exact (keepsDirectories_of_write written).workingDirectory
  | remove path isSource =>
    refine workingDirectory_attempt fun changed removed => ?_
    obtain ⟨bytes, -, rfl⟩ := remove_eq_ok removed
    rfl
  | makeDirectories path =>
    exact workingDirectory_attempt fun changed made => (createDirectories_eq_ok made).workingDirectory
  | load cache key stage =>
    rcases load_keeps cache key stage store with
      same | ⟨source, cached, contents, machine, kept, -, -, after⟩
    · rw [CacheEvent.apply, same]
    · obtain ⟨front, stem, isFront, isStem, rfl⟩ := cachedPath?_eq_some kept
      rw [CacheEvent.apply, after]
      exact (storeEffect_store isFront isStem cache machine _ store).workingDirectory

/-- Keeping a grammar leaves the stamps faithful: the new one is, and the others stand as they did. -/
theorem Faithful.keep (faithful : Faithful directory stem log store) {source cached : FilePath}
    {contents : ByteArray} {machine : Transducer Weight}
    (kept : cache.cachedPath? key stage = some cached)
    (decoded : Transducer.decodeNamed source contents = .ok machine) :
    Faithful directory stem (log ++ [⟨store.placeOf cached, source, contents, machine⟩])
      ((cache.store cached machine (Digest.hex contents)).run store).2 := by
  obtain ⟨front, ownStem, isFront, isOwn, rfl⟩ := cachedPath?_eq_some kept
  have effect := storeEffect_store isFront isOwn cache machine (Digest.hex contents) store
  have ownPlace := store.placeOf_append isFront isOwn.isFileName_keptName
  by_cases own : store.placeAbove front = directory ∧ ownStem = stem
  · obtain ⟨above, rfl⟩ := own
    rw [above] at effect ownPlace
    cases effect.kept with
    | same grammarSame stampSame => exact faithful.of_sameFile _ grammarSame stampSame
    | fresh present onlyOwn =>
      intro stamp stamped
      exact ⟨_, List.mem_append_right _ (List.mem_singleton.mpr rfl), ownPlace, onlyOwn stamp stamped,
        decoded, present⟩
  · -- a grammar of another name, or in another directory, has other places for all its three files
    have apart {name other : Text} (differ : store.placeAbove front = directory → name ≠ other) :
        directory ++ [name] ≠ store.placeAbove front ++ [other] := by
      intro same
      obtain ⟨directories, names⟩ := List.append_inj' same rfl
      exact differ directories.symm (List.singleton_inj.mp names)
    have grammarSame := effect.elsewhere (directory ++ [keptName stem])
      (apart fun _ => keptName_ne_unfinishedName stem cache.writer ownStem)
      (apart fun above same => own ⟨above, (keptName_injective same).symm⟩)
      (apart fun _ => keptName_ne_stampName stem ownStem)
    have stampSame := effect.elsewhere (directory ++ [stampName stem])
      (apart fun _ => stampName_ne_unfinishedName stem cache.writer ownStem)
      (apart fun _ => (keptName_ne_stampName ownStem stem).symm)
      (apart fun above same => own ⟨above, (stampName_injective same).symm⟩)
    exact faithful.of_sameFile _ grammarSame stampSame

section Steps

variable (isStem : IsKeptStem stem)
include isStem

/-- An event leaves the stamps faithful. -/
theorem Faithful.apply (faithful : Faithful directory stem log store) (event : CacheEvent) :
    Faithful directory stem (log ++ (event.compilation? store).toList) (event.apply store) := by
  by_cases loads : ∃ cache key stage, event = .load cache key stage
  · obtain ⟨cache, key, stage, rfl⟩ := loads
    rcases load_keeps cache key stage store with
      same | ⟨source, cached, contents, machine, kept, logged, decoded, after⟩
    · rw [CacheEvent.apply, same]
      exact faithful.of_sameFile _ (.refl store _) (.refl store _)
    · rw [CacheEvent.apply, after, logged]
      exact faithful.keep kept decoded
  · have noLoad : ∀ cache key stage, event ≠ .load cache key stage :=
      fun cache key stage same => loads ⟨cache, key, stage, same⟩
    exact faithful.of_sameFile _
      (sameFile_apply event noLoad (keptName_notMem_sourceNames isStem) store directory)
      (sameFile_apply event noLoad (stampName_notMem_sourceNames stem) store directory)

/-- A history leaves the stamps faithful. -/
theorem Faithful.applyAll (faithful : Faithful directory stem log store) (history : List CacheEvent) :
    Faithful directory stem (log ++ CacheEvent.compilations store history)
      (CacheEvent.applyAll store history) := by
  induction history generalizing store log with
  | nil => simpa [CacheEvent.compilations, CacheEvent.applyAll] using faithful
  | cons event history ih =>
    simpa [CacheEvent.compilations, CacheEvent.applyAll] using ih (faithful.apply isStem event)

end Steps

/-! What is loaded. -/

variable {source cached : FilePath} {contents : ByteArray}

/-- The same cache, keeping nothing. -/
def uncached (cache : GrammarCache) : GrammarCache := { cache with cacheDirectory? := none }

theorem load_uncached (found : cache.source? key stage store = some source)
    (held : store.read source = .ok contents) :
    ((cache.uncached.load key stage).run store).1 =
      (Transducer.decodeNamed source contents).map some := by
  have alsoFound : cache.uncached.source? key stage store = some source := found
  have noPath : cache.uncached.cachedPath? key stage = none := rfl
  rw [run_load_source alsoFound, noPath, run_loadSource_none held]

/-- What is taken from a faithful cache is what its source comes to. -/
theorem Faithful.hit {front : Text} {machine : Transducer Weight} (isFront : IsFront front)
    (isStem : IsKeptStem stem) (faithful : Faithful (store.placeAbove front) stem log store)
    (hit : ((cache.fromCache (front ++ keptName stem) (Digest.hex contents)).run store).1 = some machine)
    (noCollision : ∀ earlier ∈ log, Digest.hex earlier.contents = Digest.hex contents →
      earlier.contents = contents)
    (readsBack : ∀ earlier ∈ log,
      Transducer.ofBytes? earlier.machine.toBytes = some earlier.machine)
    (sameForm : ∀ earlier ∈ log, earlier.place = store.placeOf (front ++ keptName stem) →
      earlier.contents = contents →
        Transducer.isSourcePath earlier.source = Transducer.isSourcePath source) :
    Transducer.decodeNamed source contents = .ok machine := by
  obtain ⟨text, bytes, stamped, trimmed, kept, decoded⟩ := fromCache_eq_some hit
  obtain ⟨-, stampEntry⟩ := read_eq_ok_iff.mp stamped
  obtain ⟨-, grammarEntry⟩ := read_eq_ok_iff.mp kept
  rw [stampPath_append isFront isStem, store.placeOf_append isFront isStem.isFileName_stampName]
    at stampEntry
  have grammarPlace := store.placeOf_append isFront isStem.isFileName_keptName
  rw [grammarPlace] at grammarEntry
  obtain ⟨earlier, logged, place, spelled, compiled, present⟩ := faithful _ stampEntry
  have sameText : text = Digest.hex earlier.contents := by
    have back := Text.ofUtf8?_eq_some.mpr spelled
    exact Option.some.inj ((Text.ofUtf8?_eq_some.mpr rfl).symm.trans back)
  have digests : Digest.hex earlier.contents = Digest.hex contents := by
    rw [← trimmed, sameText, Digest.trim_hex]
  have sameContents := noCollision earlier logged digests
  have sameMachine : machine = earlier.machine := by
    have sameBytes : bytes = earlier.machine.toBytes := by simpa using grammarEntry.symm.trans present
    rw [sameBytes, readsBack earlier logged] at decoded
    exact (Option.some.inj decoded).symm
  have form := sameForm earlier logged (place.trans grammarPlace.symm) sameContents
  rw [sameMachine, ← compiled, sameContents]
  simp [Transducer.decodeNamed, form]

theorem workingDirectory_applyAll (store : FileStore) (history : List CacheEvent) :
    (CacheEvent.applyAll store history).workingDirectory = store.workingDirectory := by
  induction history generalizing store with
  | nil => rfl
  | cons event history ih => exact (ih (event.apply store)).trans (workingDirectory_apply event store)

/-- After any history of sources and loads, a load that finds a source comes to the same as without the
cache, if no stamp stood in the cache before, digests tell contents apart, and machines are read back as
they were kept. One more thing is asked, since a stamp tells contents but not their form: the same
contents were not compiled, into the same place, from a source of the other form. -/
theorem load_eq_uncached (start : FileStore) (history : List CacheEvent) (cache : GrammarCache)
    (key : GrammarKey) (stage : Stage) (source : FilePath) (contents : ByteArray)
    (clean : ∀ cached, cache.cachedPath? key stage = some cached →
      ∀ bytes, start.entry? (start.placeOf (stampPath cached)) ≠ some (.file bytes))
    (found : cache.source? key stage (CacheEvent.applyAll start history) = some source)
    (held : (CacheEvent.applyAll start history).read source = .ok contents)
    (noCollision : ∀ earlier ∈ CacheEvent.compilations start history,
      Digest.hex earlier.contents = Digest.hex contents → earlier.contents = contents)
    (readsBack : ∀ earlier ∈ CacheEvent.compilations start history,
      Transducer.ofBytes? earlier.machine.toBytes = some earlier.machine)
    (sameForm : ∀ earlier ∈ CacheEvent.compilations start history, ∀ cached,
      cache.cachedPath? key stage = some cached →
        earlier.place = (CacheEvent.applyAll start history).placeOf cached →
          earlier.contents = contents →
            Transducer.isSourcePath earlier.source = Transducer.isSourcePath source) :
    ((cache.load key stage).run (CacheEvent.applyAll start history)).1 =
      ((cache.uncached.load key stage).run (CacheEvent.applyAll start history)).1 := by
  rw [load_uncached found held, run_load_source found]
  cases kept : cache.cachedPath? key stage with
  | none => rw [run_loadSource_none held]
  | some cached =>
    cases hit : ((cache.fromCache cached (Digest.hex contents)).run
        (CacheEvent.applyAll start history)).1 with
    | none =>
      rw [run_loadSource_miss held hit]
      cases Transducer.decodeNamed source contents <;> rfl
    | some machine =>
      obtain ⟨front, stem, isFront, isStem, rfl⟩ := cachedPath?_eq_some kept
      have above : start.placeAbove front = (CacheEvent.applyAll start history).placeAbove front := by
        simp [placeAbove, origin, workingDirectory_applyAll]
      have begun : Faithful (start.placeAbove front) stem [] start := by
        intro stamp present
        rw [← start.placeOf_append isFront isStem.isFileName_stampName,
          ← stampPath_append isFront isStem] at present
        exact absurd present (clean _ kept stamp)
      have faithful := begun.applyAll isStem history
      rw [above, List.nil_append] at faithful
      rw [run_loadSource_hit held hit, faithful.hit isFront isStem hit noCollision readsBack
        fun earlier logged place => sameForm earlier logged _ kept place]

def textSource : FilePath := "g/en/tn/tokenize.fst.txt".toList

/-- The source of the small cache in binary form, which is preferred. -/
def binarySource : FilePath := "g/en/tn/tokenize.fst".toList

theorem isSource_textSource : IsSource textSource :=
  ⟨plainCache 1, plainKey, .tokenize, by decide +kernel⟩

theorem isSource_binarySource : IsSource binarySource :=
  ⟨plainCache 1, plainKey, .tokenize, by decide +kernel⟩

def loadedOnce : List CacheEvent :=
  [.makeDirectories "g/en/tn".toList, .write textSource isSource_textSource (letterSource 98),
    .load (plainCache 1) plainKey .tokenize]

theorem load_eq_uncached_once_loaded :
    (((plainCache 1).load plainKey .tokenize).run
      (CacheEvent.applyAll ⟨[], []⟩ loadedOnce)).1.toOption = some (some (letterMachine 98)) := by
  have found : (plainCache 1).source? plainKey .tokenize (CacheEvent.applyAll ⟨[], []⟩ loadedOnce) =
      some textSource := by decide +kernel
  obtain ⟨contents, held⟩ := read_source found
  obtain rfl : letterSource 98 = contents := by
    have spelled : some (letterSource 98) = some contents :=
      Eq.trans (by decide +kernel) (congrArg Except.toOption held)
    exact Option.some.inj spelled
  have once : ∀ earlier ∈ CacheEvent.compilations ⟨[], []⟩ loadedOnce,
      earlier.source = textSource ∧ earlier.contents = letterSource 98 ∧
        Transducer.ofBytes? earlier.machine.toBytes = some earlier.machine := by decide +kernel
  rw [load_eq_uncached ⟨[], []⟩ loadedOnce (plainCache 1) plainKey .tokenize textSource
    (letterSource 98) (by simp [ entry?]) found held (fun earlier logged _ => (once earlier logged).2.1)
    (fun earlier logged => (once earlier logged).2.2)
    (fun earlier logged _ _ _ _ => by rw [(once earlier logged).1]), load_uncached found held]
  decide +kernel

/-- The text of a source is copied to where the binary form is looked for first. -/
def copiedOver : List CacheEvent :=
  loadedOnce ++ [.copy textSource binarySource isSource_binarySource]

/-- The digest of a source does not tell its form: what was compiled from a text is loaded for a file of
the same bytes that is no machine in binary form. -/
theorem load_may_differ_from_uncached :
    (plainCache 1).source? plainKey .tokenize (CacheEvent.applyAll ⟨[], []⟩ copiedOver) =
        some binarySource ∧
      (((plainCache 1).load plainKey .tokenize).run
        (CacheEvent.applyAll ⟨[], []⟩ copiedOver)).1.toOption = some (some (letterMachine 98)) ∧
      (((plainCache 1).uncached.load plainKey .tokenize).run
        (CacheEvent.applyAll ⟨[], []⟩ copiedOver)).1.toOption = none ∧
      (∀ earlier ∈ CacheEvent.compilations ⟨[], []⟩ copiedOver,
        earlier.contents = letterSource 98 ∧
          Transducer.ofBytes? earlier.machine.toBytes = some earlier.machine) := by
  exact ⟨by decide +kernel, by decide +kernel, by decide +kernel, by decide +kernel⟩

end GrammarCache

end SpokenForm
