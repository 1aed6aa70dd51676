import SpokenForm.Proofs.GrammarCache.Loading

/-! Where a load takes its answer from: the cache, a source that it compiles, or nowhere. All but the
compiling that keeps its outcome leaves the store as it was. -/
namespace SpokenForm.GrammarCache

open FileStore

variable {cache : GrammarCache} {key : GrammarKey} {stage : Stage} {store : FileStore}
  {source cached : FilePath} {contents : ByteArray} {digest : Text} {machine : Transducer Weight}
  {outcome : Except GrammarError (Option (Transducer Weight))} {later : FileStore}

/-- A compiled grammar is kept, under the digest asked for. -/
structure Stamped (store : FileStore) (cached : FilePath) (digest : Text)
    (machine : Transducer Weight) : Prop where
  stamp : ∃ text, store.read (stampPath cached) = .ok (Text.toUtf8 text) ∧ text.trim = digest
  grammar : ∃ bytes, store.read cached = .ok bytes ∧ Transducer.ofBytes? bytes = some machine

theorem Stamped.of_reads (stamped : Stamped store cached digest machine)
    (stamp : later.read (stampPath cached) = store.read (stampPath cached))
    (grammar : later.read cached = store.read cached) : Stamped later cached digest machine := by
  constructor
  · rw [stamp]
    exact stamped.stamp
  · rw [grammar]
    exact stamped.grammar

theorem readStamp_of_read {text : Text} (present : store.isFile cached = true)
    (held : store.read (stampPath cached) = .ok (Text.toUtf8 text)) :
    ((readStamp cached).run store).1 = some text.trim := by
  have spelled := FileScript.readText_of_read held
  simp [readStamp, present, spelled, Except.toOption]

theorem fromCache_eq_some_iff :
    ((cache.fromCache cached digest).run store).1 = some machine ↔
      cache.overwrite = false ∧ Stamped store cached digest machine := by
  constructor
  · intro found
    obtain ⟨text, bytes, stamp, trimmed, kept, decoded⟩ := fromCache_eq_some found
    refine ⟨?_, ⟨text, stamp, trimmed⟩, ⟨bytes, kept, decoded⟩⟩
    cases replaced : cache.overwrite with
    | false => rfl
    | true => simp [fromCache, replaced] at found
  · rintro ⟨reused, ⟨text, stamp, trimmed⟩, ⟨bytes, kept, decoded⟩⟩
    have present : store.isFile cached = true := isFile_iff.mpr ⟨bytes, kept⟩
    have stamped : ((readStamp cached).run store).1 = some digest := by
      rw [readStamp_of_read present stamp, trimmed]
    have whole := Transducer.decodeBinary_eq_ok.mpr decoded
    simp [fromCache, reused, stamped, run_readStamp, Transducer.run_readBinary, kept,
      Transducer.afterReading, whole, Except.toOption]

/-- The cache has the answer: a kept grammar without a source, or one whose stamp is the digest of the
source as it is. -/
inductive AnsweredFromCache (cache : GrammarCache) (key : GrammarKey) (stage : Stage)
    (store : FileStore) : Prop where
  | alone {cached : FilePath} (reused : cache.overwrite = false)
      (place : cache.cachedPath? key stage = some cached)
      (missing : cache.source? key stage store = none) (present : store.isFile cached = true)
  | stamped {source cached : FilePath} {contents : ByteArray} {machine : Transducer Weight}
      (reused : cache.overwrite = false) (place : cache.cachedPath? key stage = some cached)
      (found : cache.source? key stage store = some source) (held : store.read source = .ok contents)
      (stamped : Stamped store cached (Digest.hex contents) machine)

/-- A source is compiled, to be kept: there is one, it is no fault, and the cache has no answer. -/
structure Compiles (cache : GrammarCache) (key : GrammarKey) (stage : Stage) (store : FileStore)
    (source cached : FilePath) (contents : ByteArray) (machine : Transducer Weight) : Prop where
  found : cache.source? key stage store = some source
  held : store.read source = .ok contents
  place : cache.cachedPath? key stage = some cached
  missed : ¬ cache.AnsweredFromCache key stage store
  decoded : Transducer.decodeNamed source contents = .ok machine

/-- The outcome of a load, and the store behind it. -/
inductive LoadCourse (cache : GrammarCache) (key : GrammarKey) (stage : Stage) (store : FileStore) :
    Except GrammarError (Option (Transducer Weight)) → FileStore → Prop where
  | absent (missed : ¬ cache.AnsweredFromCache key stage store) :
      LoadCourse cache key stage store (.ok none) store
  | answered {cached : FilePath} (reused : cache.AnsweredFromCache key stage store)
      (place : cache.cachedPath? key stage = some cached) :
      LoadCourse cache key stage store
        ((Transducer.afterReading .read Transducer.decodeBinary (store.read cached)).map some) store
  | failed (fault : GrammarError) (missed : ¬ cache.AnsweredFromCache key stage store) :
      LoadCourse cache key stage store (.error fault) store
  | unkept (machine : Transducer Weight) (nowhere : cache.cachedPath? key stage = none) :
      LoadCourse cache key stage store (.ok (some machine)) store
  | kept {source cached : FilePath} {contents : ByteArray} {machine : Transducer Weight}
      (compiles : Compiles cache key stage store source cached contents machine) :
      LoadCourse cache key stage store (.ok (some machine))
        ((cache.store cached machine (Digest.hex contents)).run store).2

theorem AnsweredFromCache.exists_place (answered : cache.AnsweredFromCache key stage store) :
    cache.overwrite = false ∧ ∃ cached, cache.cachedPath? key stage = some cached := by
  cases answered with
  | alone reused place missing present => exact ⟨reused, _, place⟩
  | stamped reused place found held stamped => exact ⟨reused, _, place⟩

/-- With a source, the cache has the answer exactly if it is taken from there. -/
theorem answeredFromCache_iff (found : cache.source? key stage store = some source)
    (held : store.read source = .ok contents) (place : cache.cachedPath? key stage = some cached) :
    cache.AnsweredFromCache key stage store ↔
      ∃ machine, ((cache.fromCache cached (Digest.hex contents)).run store).1 = some machine := by
  constructor
  · intro answered
    cases answered with
    | alone reused other missing present => simp [missing] at found
    | @stamped otherSource otherCached otherContents machine reused other alsoFound alsoHeld stamped =>
      obtain rfl : otherSource = source := Option.some.inj (alsoFound.symm.trans found)
      obtain rfl : otherContents = contents := Except.ok.inj (alsoHeld.symm.trans held)
      obtain rfl : otherCached = cached := Option.some.inj (other.symm.trans place)
      exact ⟨machine, fromCache_eq_some_iff.mpr ⟨reused, stamped⟩⟩
  · rintro ⟨machine, hit⟩
    obtain ⟨reused, stamped⟩ := fromCache_eq_some_iff.mp hit
    exact .stamped reused place found held stamped

/-- Without a source, only a kept grammar can be the answer. -/
theorem course_of_missing (missing : cache.source? key stage store = none) :
    LoadCourse cache key stage store ((cache.load key stage).run store).1
      ((cache.load key stage).run store).2 := by
  have notStamped (alone : ∀ cached, cache.cachedPath? key stage = some cached →
      cache.overwrite = false → store.isFile cached = false) :
      ¬ cache.AnsweredFromCache key stage store := by
    intro answered
    cases answered with
    | alone reused place none present => simp [alone _ place reused] at present
    | stamped reused place found held stamped => simp [missing] at found
  cases place : cache.cachedPath? key stage with
  | none =>
    have missed := notStamped fun cached other => by simp [place] at other
    simpa [load, run_findSource, missing, place] using LoadCourse.absent missed
  | some cached =>
    cases replaced : cache.overwrite with
    | true =>
      have missed := notStamped fun cached other reused => by simp [replaced] at reused
      simpa [load, run_findSource, missing, place, replaced] using LoadCourse.absent missed
    | false =>
      cases present : store.isFile cached with
      | true =>
        have answered : cache.AnsweredFromCache key stage store := .alone replaced place missing present
        simpa [load, run_findSource, missing, place, replaced, present, Transducer.run_readBinary] using
          LoadCourse.answered answered place
      | false =>
        have missed := notStamped fun other alsoPlace reused => by
          obtain rfl := Option.some.inj (place.symm.trans alsoPlace)
          exact present
        simpa [load, run_findSource, missing, place, replaced, present] using LoadCourse.absent missed

theorem course_load (cache : GrammarCache) (key : GrammarKey) (stage : Stage) (store : FileStore) :
    LoadCourse cache key stage store ((cache.load key stage).run store).1
      ((cache.load key stage).run store).2 := by
  cases found : cache.source? key stage store with
  | none => exact course_of_missing found
  | some source =>
    obtain ⟨contents, held⟩ := read_source found
    rw [run_load_source found]
    cases place : cache.cachedPath? key stage with
    | none =>
      have missed : ¬ cache.AnsweredFromCache key stage store := by
        intro answered
        obtain ⟨-, cached, other⟩ := answered.exists_place
        simp [place] at other
      rw [run_loadSource_none held]
      cases Transducer.decodeNamed source contents with
      | error fault => exact .failed fault missed
      | ok machine => exact .unkept machine place
    | some cached =>
      have answer := answeredFromCache_iff found held place
      cases hit : ((cache.fromCache cached (Digest.hex contents)).run store).1 with
      | some machine =>
        obtain ⟨-, -, bytes, kept, decoded⟩ := fromCache_eq_some_iff.mp hit
        have whole := Transducer.decodeBinary_eq_ok.mpr decoded
        rw [run_loadSource_hit held hit]
        simpa [kept, Transducer.afterReading, whole, Except.map] using
          LoadCourse.answered (answer.mpr ⟨machine, hit⟩) place
      | none =>
        have missed : ¬ cache.AnsweredFromCache key stage store := by
          intro answered
          obtain ⟨machine, taken⟩ := answer.mp answered
          simp [hit] at taken
        rw [run_loadSource_miss held hit]
        cases decoded : Transducer.decodeNamed source contents with
        | error fault => exact .failed fault missed
        | ok machine => exact .kept ⟨found, held, place, missed, decoded⟩

end SpokenForm.GrammarCache
