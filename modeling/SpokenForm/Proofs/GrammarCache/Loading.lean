import SpokenForm.Proofs.Files.Script
import SpokenForm.Proofs.GrammarCache.Names

/-! What loading a grammar comes to, told from the store it starts with. Only keeping a compiled grammar
changes the store; everything before that asks. -/
namespace SpokenForm

namespace FileStore

theorem isFile_iff {store : FileStore} {path : FilePath} :
    store.isFile path = true ↔ ∃ bytes, store.read path = .ok bytes := by
  unfold isFile
  cases store.read path <;> simp [Except.toOption]

end FileStore

namespace Transducer

/-- The transducer of bytes in the form that the name of their file tells. -/
def decodeNamed (path : FilePath) (bytes : ByteArray) : Except GrammarError (Transducer Weight) :=
  if isSourcePath path then decodeSource bytes else decodeBinary bytes

theorem decodeBinary_eq_ok {bytes : ByteArray} {machine : Transducer Weight} :
    decodeBinary bytes = .ok machine ↔ ofBytes? bytes = some machine := by
  unfold decodeBinary
  cases ofBytes? bytes <;> simp

theorem run_readBinary (path : FilePath) (store : FileStore) :
    (readBinary path).run store = (afterReading .read decodeBinary (store.read path), store) := rfl

theorem run_compile {path : FilePath} {store : FileStore} {bytes : ByteArray}
    (held : store.read path = .ok bytes) :
    (compile path).run store = (decodeNamed path bytes, store) := by
  unfold compile decodeNamed
  split
  · simp [held, afterReading]
  · rw [run_readBinary, held]
    rfl

end Transducer

namespace GrammarCache

variable {cache : GrammarCache} {key : GrammarKey} {stage : Stage} {store : FileStore}
  {source cached : FilePath} {contents : ByteArray} {digest : Text} {machine : Transducer Weight}

theorem run_firstFile (paths : List FilePath) (store : FileStore) :
    (firstFile paths).run store = (paths.find? (store.isFile ·), store) := by
  induction paths with
  | nil => rfl
  | cons path paths ih =>
    cases found : store.isFile path with
    | true => simp [firstFile, found]
    | false => simp [firstFile, found, ih]

def source? (cache : GrammarCache) (key : GrammarKey) (stage : Stage) (store : FileStore) :
    Option FilePath := (cache.sourceCandidates key stage).find? (store.isFile ·)

theorem run_findSource (cache : GrammarCache) (key : GrammarKey) (stage : Stage) (store : FileStore) :
    (cache.findSource key stage).run store = (cache.source? key stage store, store) :=
  run_firstFile _ store

theorem read_source (found : cache.source? key stage store = some source) :
    ∃ contents, store.read source = .ok contents :=
  FileStore.isFile_iff.mp (List.find?_some found)

theorem run_readStamp (cached : FilePath) (store : FileStore) :
    ((readStamp cached).run store).2 = store := by
  cases found : store.isFile cached with
  | true => simp [readStamp, found, FileScript.run_readText]
  | false => simp [readStamp, found]

theorem readStamp_eq_some {stamp : Text} (found : ((readStamp cached).run store).1 = some stamp) :
    ∃ text, store.read (stampPath cached) = .ok (Text.toUtf8 text) ∧ text.trim = stamp := by
  cases present : store.isFile cached with
  | false => simp [readStamp, present] at found
  | true =>
    cases spelled : ((FileScript.readText (stampPath cached)).run store).1 with
    | error cause => simp [readStamp, present, spelled, Except.toOption] at found
    | ok text =>
      have trimmed : text.trim = stamp := by
        simpa [readStamp, present, spelled, Except.toOption] using found
      exact ⟨text, FileScript.readText_eq_ok spelled, trimmed⟩

theorem run_fromCache (cache : GrammarCache) (cached : FilePath) (digest : Text) (store : FileStore) :
    ((cache.fromCache cached digest).run store).2 = store := by
  cases replaced : cache.overwrite with
  | true => simp [fromCache, replaced]
  | false =>
    by_cases stamped : ((readStamp cached).run store).1 = some digest
    · simp [fromCache, replaced, stamped, run_readStamp, Transducer.run_readBinary]
    · simp [fromCache, replaced, stamped, run_readStamp]

/-- What is taken from the cache stands under the stamp that is asked for. -/
theorem fromCache_eq_some (found : ((cache.fromCache cached digest).run store).1 = some machine) :
    ∃ text bytes, store.read (stampPath cached) = .ok (Text.toUtf8 text) ∧ text.trim = digest ∧
      store.read cached = .ok bytes ∧ Transducer.ofBytes? bytes = some machine := by
  cases replaced : cache.overwrite with
  | true => simp [fromCache, replaced] at found
  | false =>
    by_cases stamped : ((readStamp cached).run store).1 = some digest
    · obtain ⟨text, held, trimmed⟩ := readStamp_eq_some stamped
      simp only [fromCache, replaced, stamped, run_readStamp, Transducer.run_readBinary,
        FileScript.run_bind, FileScript.run_pure, Bool.false_eq_true, if_false, if_true] at found
      cases kept : store.read cached with
      | error cause => simp [kept, Transducer.afterReading, Except.toOption] at found
      | ok bytes =>
        cases decoded : Transducer.decodeBinary bytes with
        | error fault => simp [kept, Transducer.afterReading, decoded, Except.toOption] at found
        | ok other =>
          have same : other = machine := by
            simpa [kept, Transducer.afterReading, decoded, Except.toOption] using found
          exact ⟨text, bytes, held, trimmed, rfl, Transducer.decodeBinary_eq_ok.mp (same ▸ decoded)⟩
    · simp [fromCache, replaced, stamped, run_readStamp] at found

theorem run_loadSource_none (held : store.read source = .ok contents) :
    (cache.loadSource source none).run store = (Transducer.decodeNamed source contents, store) := by
  simp [loadSource, held, Transducer.run_compile held]

theorem run_loadSource_hit (held : store.read source = .ok contents)
    (hit : ((cache.fromCache cached (Digest.hex contents)).run store).1 = some machine) :
    (cache.loadSource source (some cached)).run store = (.ok machine, store) := by
  simp [loadSource, held, hit, run_fromCache]

theorem run_loadSource_miss (held : store.read source = .ok contents)
    (miss : ((cache.fromCache cached (Digest.hex contents)).run store).1 = none) :
    (cache.loadSource source (some cached)).run store =
      match Transducer.decodeNamed source contents with
      | .error fault => (.error fault, store)
      | .ok machine => (.ok machine, ((cache.store cached machine (Digest.hex contents)).run store).2) := by
  simp only [loadSource, FileScript.run_bind, FileScript.run_readBytes, held, miss, run_fromCache,
    Transducer.run_compile held]
  cases Transducer.decodeNamed source contents <;> simp

theorem run_load_source (found : cache.source? key stage store = some source) :
    (cache.load key stage).run store =
      (((cache.loadSource source (cache.cachedPath? key stage)).run store).1.map some,
        ((cache.loadSource source (cache.cachedPath? key stage)).run store).2) := by
  simp [load, run_findSource, found]

/-- Without a source nothing is kept. -/
theorem run_load_none (missing : cache.source? key stage store = none) :
    ((cache.load key stage).run store).2 = store := by
  cases kept : cache.cachedPath? key stage with
  | none => simp [load, run_findSource, missing, kept]
  | some cached =>
    cases replaced : cache.overwrite with
    | true => simp [load, run_findSource, missing, kept, replaced]
    | false =>
      cases present : store.isFile cached with
      | true =>
        simp [load, run_findSource, missing, kept, replaced, present, Transducer.run_readBinary]
      | false => simp [load, run_findSource, missing, kept, replaced, present]

/-! A small cache, for cases of the theorems about caches. -/

def plainCache (writer : Nat) : GrammarCache := ⟨"g".toList, some "c".toList, false, writer⟩

def plainKey : GrammarKey := ⟨"en".toList, .normalize, .cased, true, none⟩

def letterSource (byte : Nat) : ByteArray := ("0\t1\t97\t" ++ toString byte ++ "\n1\n").toUTF8

def letterMachine (byte : Nat) : Transducer Weight :=
  ⟨some 0, #[⟨none, [⟨97, byte, .zero, 1⟩]⟩, ⟨some .zero, []⟩]⟩

end GrammarCache

end SpokenForm
