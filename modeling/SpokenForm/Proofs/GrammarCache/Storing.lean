import SpokenForm.Proofs.Files.SameFile
import SpokenForm.Proofs.Files.Script
import SpokenForm.Proofs.GrammarCache.Names

/-! What keeping a compiled grammar does to the files, whether it succeeds or fails halfway. -/
namespace SpokenForm.GrammarCache

open FilePath FileStore

/-- What may have become of a compiled grammar and its stamp: both are as they were, or the grammar is
new, and then no other stamp than its own stands beside it. -/
inductive Kept (store later : FileStore) (grammar stamp : Place) (bytes digest : ByteArray) : Prop where
  | same (grammarSame : SameFile store later grammar) (stampSame : SameFile store later stamp)
  | fresh (present : later.entry? grammar = some (.file bytes))
    (onlyOwn : ∀ held, later.entry? stamp = some (.file held) → held = digest)

/-- The effect of keeping a compiled grammar under a name in a directory. -/
structure StoreEffect (store later : FileStore) (directory : Place) (stem : Text) (writer : Nat)
    (bytes digest : ByteArray) : Prop where
  workingDirectory : later.workingDirectory = store.workingDirectory
  elsewhere : ∀ place, place ≠ directory ++ [unfinishedName writer stem] →
    place ≠ directory ++ [keptName stem] → place ≠ directory ++ [stampName stem] →
    SameFile store later place
  kept : Kept store later (directory ++ [keptName stem]) (directory ++ [stampName stem]) bytes digest

variable {store opened later : FileStore} {directory : Place} {stem : Text} {writer : Nat}
  {bytes digest : ByteArray}

/-- Nothing but the unfinished file has changed. -/
theorem StoreEffect.of_elsewhere (workingDirectory : later.workingDirectory = store.workingDirectory)
    (elsewhere : ∀ place, place ≠ directory ++ [unfinishedName writer stem] →
      SameFile store later place) :
    StoreEffect store later directory stem writer bytes digest := by
  have grammar : directory ++ [keptName stem] ≠ directory ++ [unfinishedName writer stem] := by
    simpa using keptName_ne_unfinishedName stem writer stem
  have stamp : directory ++ [stampName stem] ≠ directory ++ [unfinishedName writer stem] := by
    simpa using stampName_ne_unfinishedName stem writer stem
  exact ⟨workingDirectory, fun place apart _ _ => elsewhere place apart,
    .same (elsewhere _ grammar) (elsewhere _ stamp)⟩

/-- Making directories first has no effect on files. -/
theorem StoreEffect.after (adds : AddsDirectories store opened)
    (effect : StoreEffect opened later directory stem writer bytes digest) :
    StoreEffect store later directory stem writer bytes digest := by
  refine ⟨effect.workingDirectory.trans adds.workingDirectory, ?_, ?_⟩
  · intro place unfinished grammar stamp
    exact (adds.sameFile place).trans (effect.elsewhere place unfinished grammar stamp)
  · cases effect.kept with
    | same grammarSame stampSame =>
      exact .same ((adds.sameFile _).trans grammarSame) ((adds.sameFile _).trans stampSame)
    | fresh present onlyOwn => exact .fresh present onlyOwn

section Storing

variable {front : Text} (isFront : IsFront front) (isStem : IsKeptStem stem)
include isFront isStem

/-- A stamp beside a file is written, or a directory stands in its way. -/
theorem stamp_written (located : store.locate (front ++ keptName stem) =
      .ok (store.placeOf (front ++ keptName stem))) :
    (∃ changed, store.write (front ++ stampName stem) digest = .ok changed) ∨
      store.entry? (store.placeAbove front ++ [stampName stem]) = some .directory := by
  have isKept := isStem.isFileName_keptName
  have isStamp := isStem.isFileName_stampName
  rw [← store.placeOf_append isFront isStamp]
  exact write_or_directory (locate_sibling isFront isKept isStamp located)

/-- What the stamp comes to, once the grammar is in its place. -/
theorem storeEffect_moved {moved : FileStore}
    (workingDirectory : moved.workingDirectory = store.workingDirectory)
    (elsewhere : ∀ place, place ≠ store.placeAbove front ++ [unfinishedName writer stem] →
      place ≠ store.placeAbove front ++ [keptName stem] → SameFile store moved place)
    (held : moved.read (front ++ keptName stem) = .ok bytes) :
    StoreEffect store (FileScript.attempt moved (moved.write (front ++ stampName stem) digest)).2
      (store.placeAbove front) stem writer bytes digest := by
  have above : moved.placeAbove front = store.placeAbove front := by
    simp [placeAbove, origin, workingDirectory]
  have grammarAt : moved.placeOf (front ++ keptName stem) = store.placeAbove front ++ [keptName stem] := by
    rw [moved.placeOf_append isFront isStem.isFileName_keptName, above]
  have stampAt : moved.placeOf (front ++ stampName stem) =
      store.placeAbove front ++ [stampName stem] := by
    rw [moved.placeOf_append isFront isStem.isFileName_stampName, above]
  obtain ⟨located, present⟩ := read_eq_ok_iff.mp held
  cases wrote : moved.write (front ++ stampName stem) digest with
  | error cause =>
    have directory : moved.entry? (store.placeAbove front ++ [stampName stem]) = some .directory := by
      have outcome : (∃ changed, moved.write (front ++ stampName stem) digest = .ok changed) ∨ _ :=
        stamp_written isFront isStem located
      rcases outcome with ⟨changed, written⟩ | directory
      · simp [wrote] at written
      · rwa [above] at directory
    refine ⟨workingDirectory, fun place unfinished grammar _ => elsewhere place unfinished grammar, ?_⟩
    refine .fresh (grammarAt ▸ present) fun other found => ?_
    simp [FileScript.attempt, directory] at found
  | ok stamped =>
    have keeps := keepsDirectories_of_write wrote
    have apart : store.placeAbove front ++ [keptName stem] ≠
        moved.placeOf (front ++ stampName stem) := by
      rw [stampAt]
      simpa using keptName_ne_stampName stem stem
    refine ⟨keeps.workingDirectory.trans workingDirectory, ?_, ?_⟩
    · intro place unfinished grammar stamp
      exact (elsewhere place unfinished grammar).trans (sameFile_of_write wrote (stampAt ▸ stamp))
    · refine .fresh ((sameFile_of_write wrote apart bytes).mpr (grammarAt ▸ present)) fun other found => ?_
      have spelled := (read_eq_ok_iff.mp (read_written wrote)).2
      rw [keeps.placeOf, stampAt] at spelled
      simpa using found.symm.trans spelled

theorem sameFile_unfinished {written : FileStore} {place : Place}
    (wrote : store.write (front ++ unfinishedName writer stem) bytes = .ok written)
    (apart : place ≠ store.placeAbove front ++ [unfinishedName writer stem]) :
    SameFile store written place := by
  apply sameFile_of_write wrote
  rwa [store.placeOf_append isFront (isStem.isFileName_unfinishedName writer)]

/-- Moving the unfinished file changes its own place and that of the grammar. -/
theorem sameFile_moved {written moved : FileStore} {place : Place}
    (wrote : store.write (front ++ unfinishedName writer stem) bytes = .ok written)
    (renamed : written.rename (front ++ unfinishedName writer stem) (front ++ keptName stem) = .ok moved)
    (unfinished : place ≠ store.placeAbove front ++ [unfinishedName writer stem])
    (grammar : place ≠ store.placeAbove front ++ [keptName stem]) : SameFile store moved place := by
  have keeps := keepsDirectories_of_write wrote
  refine (sameFile_unfinished isFront isStem wrote unfinished).trans (sameFile_of_rename renamed ?_ ?_)
  · rwa [keeps.placeOf, store.placeOf_append isFront (isStem.isFileName_unfinishedName writer)]
  · rwa [keeps.placeOf, store.placeOf_append isFront isStem.isFileName_keptName]

/-- The work once the directory is there. An operation that fails ends it, with what the ones before it
have changed. -/
theorem storeEffect_written (store : FileStore) :
    StoreEffect store (FileScript.run (do
      let written ← FileScript.writeBytes (front ++ unfinishedName writer stem) bytes
      let moved ← FileScript.unlessFailed written
        (FileScript.move (front ++ unfinishedName writer stem) (front ++ keptName stem))
      let _ ← FileScript.unlessFailed moved
        (FileScript.writeBytes (front ++ stampName stem) digest)) store).2
      (store.placeAbove front) stem writer bytes digest := by
  simp only [FileScript.run_bind, FileScript.run_writeBytes]
  cases wrote : store.write (front ++ unfinishedName writer stem) bytes with
  | error cause =>
    simp only [FileScript.unlessFailed_error, FileScript.attempt_error, FileScript.run_done,
      FileScript.run_pure]
    exact .of_elsewhere rfl fun place _ => .refl store place
  | ok written =>
    have wroteKeeps := keepsDirectories_of_write wrote
    simp only [FileScript.unlessFailed_ok, FileScript.attempt_ok, FileScript.run_move]
    cases renamed : written.rename (front ++ unfinishedName writer stem) (front ++ keptName stem) with
    | error cause =>
      simp only [FileScript.attempt_error, FileScript.unlessFailed_error, FileScript.run_done,
        FileScript.run_pure]
      exact .of_elsewhere wroteKeeps.workingDirectory fun place apart =>
        sameFile_unfinished isFront isStem wrote apart
    | ok moved =>
      have movedKeeps := keepsDirectories_of_rename renamed
      simp only [FileScript.attempt_ok, FileScript.unlessFailed_ok, FileScript.run_writeBytes,
        FileScript.run_pure]
      exact storeEffect_moved isFront isStem
        (movedKeeps.workingDirectory.trans wroteKeeps.workingDirectory)
        (fun place unfinished grammar => sameFile_moved isFront isStem wrote renamed unfinished grammar)
        (read_renamed renamed (read_written wrote))

/-- Keeping a grammar touches its unfinished file, itself and its stamp, and never leaves another stamp
beside it. -/
theorem storeEffect_store (cache : GrammarCache) (machine : Transducer Weight) (digest : Text)
    (store : FileStore) :
    StoreEffect store ((cache.store (front ++ keptName stem) machine digest).run store).2
      (store.placeAbove front) stem cache.writer machine.toBytes (Text.toUtf8 digest) := by
  unfold GrammarCache.store
  rw [unfinishedPath_append isFront isStem, stampPath_append isFront isStem, FileScript.run_bind]
  rcases FileScript.run_makeParent (front ++ keptName stem) store with
    ⟨prepared, adds⟩ | ⟨⟨cause, failed⟩, unchanged⟩
  · rw [prepared]
    generalize ((FileScript.makeParent (front ++ keptName stem)).run store).2 = opened at adds ⊢
    have above : opened.placeAbove front = store.placeAbove front := by
      simp [placeAbove, origin, adds.workingDirectory]
    exact above ▸ StoreEffect.after adds (storeEffect_written isFront isStem opened)
  · simp only [failed, unchanged, FileScript.run_bind, FileScript.unlessFailed_error,
      FileScript.run_done, FileScript.run_pure]
    exact .of_elsewhere rfl fun place _ => .refl store place

end Storing

end SpokenForm.GrammarCache
