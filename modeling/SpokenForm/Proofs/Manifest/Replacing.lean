import SpokenForm.Proofs.Files.Extension
import SpokenForm.Proofs.Files.SameFile
import SpokenForm.Proofs.Manifest

/-! What writing an output file does to all files, on a disk that may fail at any step. The file is replaced
as a whole or not at all, unless it has the name of the unfinished output itself. Beside it only the file
with that name is touched; and if there was such a file, it is lost. -/
namespace SpokenForm.Manifest

open FilePath FileStore

variable {store opened halfway : FileStore} {path : FilePath} {content : Text}
  {result : Except InputError Unit × FileStore} {bytes : ByteArray}

/-- Before the file is replaced, only the unfinished one has changed. -/
theorem sameFile_wrote (adds : AddsDirectories store opened)
    (wrote : opened.write (unfinishedPath path) bytes = .ok halfway) {place : Place}
    (apart : place ≠ store.placeOf (unfinishedPath path)) : SameFile store halfway place := by
  refine (adds.sameFile place).trans (sameFile_of_write wrote ?_)
  rwa [adds.keepsDirectories.placeOf]

theorem placeOf_wrote (adds : AddsDirectories store opened)
    (wrote : opened.write (unfinishedPath path) bytes = .ok halfway) (other : FilePath) :
    halfway.placeOf other = store.placeOf other :=
  ((keepsDirectories_of_write wrote).placeOf other).trans (adds.keepsDirectories.placeOf other)

/-- Where a file can be read, the unfinished one stands at another place, unless it has the same path. -/
theorem placeOf_unfinished_ne {held : ByteArray} (other : unfinishedPath path ≠ path)
    (found : store.read path = .ok held) : store.placeOf path ≠ store.placeOf (unfinishedPath path) :=
  fun same => other (withExtension_eq_of_placeOf_eq found (by decide) (by decide) same.symm)

theorem read_wrote {part : ByteArray} (other : unfinishedPath path ≠ path)
    (adds : AddsDirectories store opened) (wrote : opened.write (unfinishedPath path) part = .ok halfway)
    (held : store.read path = .ok bytes) : halfway.read path = .ok bytes := by
  have alsoHeld := adds.read held
  exact read_of_write wrote (placeOf_unfinished_ne other alsoHeld) alsoHeld

theorem stood_of_wrote {part : ByteArray} (other : unfinishedPath path ≠ path)
    (adds : AddsDirectories store opened) (wrote : opened.write (unfinishedPath path) part = .ok halfway)
    (found : halfway.read path = .ok bytes) :
    store.entry? (store.placeOf path) = some (.file bytes) := by
  have present := (read_eq_ok_iff.mp found).2
  have apart := placeOf_unfinished_ne other found
  rw [placeOf_wrote adds wrote] at present
  rw [placeOf_wrote adds wrote, placeOf_wrote adds wrote] at apart
  exact (sameFile_wrote adds wrote apart bytes).mp present

namespace Course

theorem beside (course : Course store path content result) {place : Place}
    (fromPath : place ≠ store.placeOf path) (fromUnfinished : place ≠ store.placeOf (unfinishedPath path)) :
    SameFile store result.2 place := by
  cases course with
  | noDirectory cause adds => exact adds.sameFile place
  | notWritten adds => exact adds.sameFile place
  | brokenOff adds part wrote => exact sameFile_wrote adds wrote fromUnfinished
  | notReplaced adds wrote => exact sameFile_wrote adds wrote fromUnfinished
  | replaced adds wrote renamed =>
    refine (sameFile_wrote adds wrote fromUnfinished).trans (sameFile_of_rename renamed ?_ ?_)
    · rwa [placeOf_wrote adds wrote]
    · rwa [placeOf_wrote adds wrote]

/-- The unfinished file is gone once the output file is there. -/
theorem gone (course : Course store path content result) (succeeded : result.1 = .ok ())
    (apart : store.placeOf (unfinishedPath path) ≠ store.placeOf path) (held : ByteArray) :
    FileStore.entry? result.2 (store.placeOf (unfinishedPath path)) ≠ some (.file held) := by
  cases course with
  | replaced adds wrote renamed =>
    have keeps := placeOf_wrote adds wrote
    obtain ⟨bytes, found, -, noDirectory, rfl⟩ := rename_eq_ok renamed
    have inside := inside_of_read found
    rw [keeps] at inside
    rw [keeps, keeps, if_neg apart]
    rw [keeps] at noDirectory
    simp [entry?_insert (inside_of_not_directory noDirectory), apart, entry?_erase inside]
  | _ => cases succeeded

/-- What the file held it still holds after a failure. -/
theorem kept (course : Course store path content result) (other : unfinishedPath path ≠ path)
    {cause : InputError} (failed : result.1 = .error cause) (held : store.read path = .ok bytes) :
    result.2.read path = .ok bytes := by
  cases course with
  | noDirectory cause adds => exact adds.read held
  | notWritten adds => exact adds.read held
  | brokenOff adds part wrote => exact read_wrote other adds wrote held
  | notReplaced adds wrote => exact read_wrote other adds wrote held
  | replaced adds wrote renamed => cases failed

/-- What the file holds after a failure stood at its place before. -/
theorem stood (course : Course store path content result) (other : unfinishedPath path ≠ path)
    {cause : InputError} (failed : result.1 = .error cause) (found : result.2.read path = .ok bytes) :
    store.entry? (store.placeOf path) = some (.file bytes) := by
  have before {later : FileStore} (adds : AddsDirectories store later) (found : later.read path = .ok bytes) :
      store.entry? (store.placeOf path) = some (.file bytes) := by
    have present := (read_eq_ok_iff.mp found).2
    rw [adds.keepsDirectories.placeOf] at present
    exact adds.added _ _ present
  cases course with
  | noDirectory cause adds => exact before adds found
  | notWritten adds => exact before adds found
  | brokenOff adds part wrote => exact stood_of_wrote other adds wrote found
  | notReplaced adds wrote => exact stood_of_wrote other adds wrote found
  | replaced adds wrote renamed => cases failed

end Course

/-- The effect of writing an output file, by its outcome, on the files of a store. After a success the file
holds the content, and all others are as they were exactly if none of them had the name of the unfinished
output. After a failure what was read from the file is read again, and nothing else than what stood at its
place before, unless the file is its own unfinished output. -/
structure Replaces (store : FileStore) (path : FilePath) (content : Text)
    (result : Except InputError Unit × FileStore) : Prop where
  written : result.1 = .ok () → result.2.read path = .ok (Text.toUtf8 content)
  beside : ∀ place, place ≠ store.placeOf path → place ≠ store.placeOf (unfinishedPath path) →
    SameFile store result.2 place
  alone : result.1 = .ok () →
    ((∀ place, place ≠ store.placeOf path → SameFile store result.2 place) ↔
      store.placeOf (unfinishedPath path) = store.placeOf path ∨
        ∀ bytes, store.entry? (store.placeOf (unfinishedPath path)) ≠ some (.file bytes))
  kept : unfinishedPath path ≠ path → ∀ cause, result.1 = .error cause →
    ∀ bytes, store.read path = .ok bytes → result.2.read path = .ok bytes
  stood : unfinishedPath path ≠ path → ∀ cause, result.1 = .error cause →
    ∀ bytes, result.2.read path = .ok bytes → store.entry? (store.placeOf path) = some (.file bytes)

/-- All other files are as they were exactly if none of them had the name of the unfinished output. -/
theorem Course.alone (course : Course store path content result) (succeeded : result.1 = .ok ()) :
    (∀ place, place ≠ store.placeOf path → SameFile store result.2 place) ↔
      store.placeOf (unfinishedPath path) = store.placeOf path ∨
        ∀ bytes, store.entry? (store.placeOf (unfinishedPath path)) ≠ some (.file bytes) := by
  constructor
  · intro untouched
    by_cases same : store.placeOf (unfinishedPath path) = store.placeOf path
    · exact .inl same
    · right
      intro bytes present
      exact course.gone succeeded same bytes ((untouched _ same bytes).mpr present)
  · intro free place fromPath
    by_cases unfinished : place = store.placeOf (unfinishedPath path)
    · subst unfinished
      have absent := free.resolve_left fromPath
      intro bytes
      exact iff_of_false (course.gone succeeded fromPath bytes) (absent bytes)
    · exact course.beside fromPath unfinished

theorem Course.replaces (course : Course store path content result) :
    Replaces store path content result where
  written := course.written
  beside _ := course.beside
  alone := course.alone
  kept other _ failed _ := course.kept other failed
  stood other _ failed _ := course.stood other failed

/-- Writing lines or entries replaces the file at a path as a whole or leaves it as it was, whatever files
there are, whatever the path and whichever step fails, unless the path has the extension tmp itself. The
other files stay as they are, but for one: a file that has the path's name with the extension tmp instead
of its own is gone after a success. -/
theorem outputs_replace_one_file (store : FileStore) (path : FilePath) :
    (∀ lines result, FileScript.Ends (writeLines path lines) store result →
      Replaces store path (textOfLines lines) result) ∧
    ∀ entries result, FileScript.Ends (write path entries) store result →
      Replaces store path (textOfLines (entries.map Json.compactObject)) result :=
  ⟨fun _ _ ends => (course_of_ends ends).replaces, fun _ _ ends => (course_of_ends ends).replaces⟩

/-- Notes under a name that an output may need while it is written. -/
def notedStore : FileStore := ⟨[], [(["out.tmp".toList], .file (Text.toUtf8 "notes\n".toList))]⟩

theorem outputs_replace_one_file_list :
    ((writeLines "list.txt".toList ["a".toList]).run notedStore).1 = .ok () ∧
      ((writeLines "list.txt".toList ["a".toList]).run notedStore).2.read "list.txt".toList =
        .ok (Text.toUtf8 "a\n".toList) ∧
      FileStore.entry? ((writeLines "list.txt".toList ["a".toList]).run notedStore).2
        ["out.tmp".toList] = some (.file (Text.toUtf8 "notes\n".toList)) := by
  have succeeded : ((writeLines "list.txt".toList ["a".toList]).run notedStore).1 = .ok () := by
    decide +kernel
  have effect := (outputs_replace_one_file notedStore "list.txt".toList).1 ["a".toList] _
    (FileScript.ends_run _ _)
  have free : notedStore.entry? (notedStore.placeOf (unfinishedPath "list.txt".toList)) = none := rfl
  have apart : ["out.tmp".toList] ≠ notedStore.placeOf "list.txt".toList := by decide +kernel
  have absent : ∀ bytes, notedStore.entry?
      (notedStore.placeOf (unfinishedPath "list.txt".toList)) ≠ some (.file bytes) := by
    intro bytes present
    rw [free] at present
    cases present
  have alone := (effect.alone succeeded).mpr (.inr absent)
  exact ⟨succeeded, effect.written succeeded, (alone _ apart _).mpr rfl⟩

/-- An output that is its own unfinished file may be empty after a failure. -/
theorem exists_ends_empty {prepared emptied : FileStore} (own : unfinishedPath path = path)
    (opened : (FileScript.makeParent path).run store = (.ok (), prepared))
    (wrote : prepared.write path ByteArray.empty = .ok emptied) (content : Text) :
    FileScript.Ends (replace path content) store (.error (.notWritten path), emptied) ∧
      emptied.read path = .ok ByteArray.empty := by
  refine ⟨?_, read_written wrote⟩
  have begins := FileScript.ends_run (FileScript.makeParent path) store
  rw [opened] at begins
  have halfway : prepared.WritesSome (unfinishedPath path) (Text.toUtf8 content) emptied :=
    ⟨0, by rw [own, ByteArray.extract_eq_empty_iff.mpr (by simp), wrote]⟩
  have writes : FileScript.Ends (FileScript.writeBytes (unfinishedPath path) (Text.toUtf8 content)) prepared
      (.error (.other []), emptied) := .write (.stopped _ halfway) (.done _ emptied)
  have fails : FileScript.Ends (pure (.error (.notWritten (unfinishedPath path)))) emptied
      ((.error (.notWritten path) : Except InputError Unit), emptied) := by
    rw [own]
    exact .done _ emptied
  exact begins.bind (writes.bind fails)

/-- A file of another name may be lost when an output is written, and the output itself when writing fails. -/
theorem outputs_may_take_another_file :
    (notedStore.placeOf "out.tmp".toList ≠ notedStore.placeOf "out.txt".toList ∧
      notedStore.read "out.tmp".toList = .ok (Text.toUtf8 "notes\n".toList) ∧
      ((writeLines "out.txt".toList ["a".toList]).run notedStore).1 = .ok () ∧
      ((writeLines "out.txt".toList ["a".toList]).run notedStore).2.read "out.tmp".toList =
        .error .notFound) ∧
    ∃ cause emptied, FileScript.Ends (writeLines "out.tmp".toList ["a".toList]) notedStore (.error cause, emptied) ∧
      emptied.read "out.tmp".toList = .ok ByteArray.empty := by
  refine ⟨⟨by decide +kernel, by decide +kernel, by decide +kernel, by decide +kernel⟩, ?_⟩
  exact ⟨_, _, exists_ends_empty rfl rfl rfl _⟩

end SpokenForm.Manifest
