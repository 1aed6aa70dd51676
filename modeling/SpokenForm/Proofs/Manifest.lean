import Mathlib.Data.List.Forall2
import Mathlib.Data.List.Nodup
import SpokenForm.Manifest
import SpokenForm.Proofs.Files.Failure
import SpokenForm.Proofs.Files.Script
import SpokenForm.Proofs.Json.Printing

/-! Manifests. Entries are what lines are read as, setting a field replaces one member of them in its place or
adds one behind the others, and an output file is replaced as a whole. -/
namespace SpokenForm

namespace Manifest

open Json

def entryLines (lines : List Text) : List Text := lines.filter fun line => !line.trim.isEmpty

theorem forall₂_of_entriesOfLines {path : FilePath} {number : Nat} {lines : List Text}
    {entries : List JsonObject} (found : entriesOfLines path number lines = .ok entries) :
    List.Forall₂ (fun line entry => objectOfText? line = some entry) (entryLines lines) entries := by
  induction lines generalizing number entries with
  | nil =>
    obtain rfl := Except.ok.inj found
    exact .nil
  | cons line lines ih =>
    unfold entriesOfLines at found
    split at found
    · rename_i blank
      rw [entryLines, List.filter_cons_of_neg (by simp [blank])]
      exact ih found
    · rename_i something
      rw [entryLines, List.filter_cons_of_pos (by simpa using something)]
      split at found
      · cases found
      · rename_i entry read
        cases later : entriesOfLines path (number + 1) lines with
        | error cause => simp [later, bind, Except.bind] at found
        | ok others =>
          obtain rfl : entry :: others = entries := by
            simpa [later, bind, Except.bind, pure, Except.pure] using found
          exact .cons read (ih later)

/-- Reading lines changes nothing. -/
theorem run_readLines (path : FilePath) (store : FileStore) :
    ((readLines path).run store).2 = store := by
  unfold readLines
  rw [FileScript.run_bind, FileScript.run_readText]
  split <;> rfl

/-- Reading entries changes nothing. -/
theorem run_read (path : FilePath) (store : FileStore) : ((read path).run store).2 = store := by
  unfold read
  rw [FileScript.run_bind, FileScript.run_readText]
  split <;> rfl

/-- Entries are read from the lines of a file that are not blank. -/
theorem exists_lines_of_read {path : FilePath} {store : FileStore} {entries : List JsonObject}
    (found : ((read path).run store).1 = .ok entries) : ∃ content,
      store.read path = .ok (Text.toUtf8 content) ∧
      List.Forall₂ (fun line entry => objectOfText? line = some entry) (entryLines content.lines)
        entries := by
  unfold read at found
  rw [FileScript.run_bind] at found
  split at found
  · cases found
  · rename_i content held
    exact ⟨content, FileScript.readText_eq_ok held, forall₂_of_entriesOfLines found⟩

theorem readable_of_lines {lines : List Text} {entries : List JsonObject}
    (each : List.Forall₂ (fun line entry => objectOfText? line = some entry) lines entries) :
    ∀ entry ∈ entries, Readable (Decimal.isFinite · = true) deepest (.object entry) := by
  induction each with
  | nil => simp
  | cons read _ ih =>
    obtain ⟨tree, -, isRead⟩ := isRead_of_objectOfText? read
    exact List.forall_mem_cons.mpr ⟨isRead.readable, ih⟩

/-! Fields of entries. -/

theorem textOf_eq_ok_iff {number : Nat} {entry : JsonObject} {field text : Text} :
    textOf number entry field = .ok text ↔ entry.lookup field = some (.string text) := by
  unfold textOf
  split
  · rename_i held found
    rw [found, Except.ok.injEq, Option.some.injEq, JsonValue.string.injEq]
  · rename_i value notText found
    rw [found, Option.some.injEq]
    exact iff_of_false (by simp) (notText text)
  · rename_i missing
    rw [missing]
    exact iff_of_false (by simp) (by simp)

theorem textsFrom_eq_ok_iff {number : Nat} {field : Text} {entries : List JsonObject}
    {texts : List Text} :
    textsFrom number field entries = .ok texts ↔
      List.Forall₂ (fun entry text => entry.lookup field = some (.string text)) entries texts := by
  induction entries generalizing number texts with
  | nil => cases texts <;> simp [textsFrom]
  | cons entry entries ih =>
    unfold textsFrom
    cases first : textOf number entry field with
    | error cause =>
      refine iff_of_false (by simp [bind, Except.bind]) fun related => ?_
      cases related with
      | cons held _ => simp [textOf_eq_ok_iff.mpr held] at first
    | ok text =>
      have held := textOf_eq_ok_iff.mp first
      cases later : textsFrom (number + 1) field entries with
      | error cause =>
        refine iff_of_false (by simp [bind, Except.bind]) fun related => ?_
        cases related with
        | cons _ others => simp [ih.mpr others] at later
      | ok others =>
        have tail (rest : List Text) :
            List.Forall₂ (fun entry text => entry.lookup field = some (.string text)) entries rest ↔
              others = rest := by
          rw [← @ih (number + 1) rest, later, Except.ok.injEq]
        cases texts <;> simp [bind, Except.bind, pure, Except.pure, held, tail]

/-- Each entry has its field set to the text in its place. -/
theorem sets_setField (field : Text) {entries : List JsonObject} {texts : List Text}
    (distinct : ∀ entry ∈ entries, DistinctNames entry) (sameLength : entries.length = texts.length) :
    List.Forall₂ (fun pair finished => Sets field (.string pair.2) pair.1 finished)
      (entries.zip texts) (setField field entries texts) := by
  induction entries generalizing texts with
  | nil =>
    obtain rfl := List.length_eq_zero_iff.mp sameLength.symm
    exact .nil
  | cons entry entries ih =>
    cases texts with
    | nil => simp at sameLength
    | cons text texts =>
      obtain ⟨here, later⟩ := List.forall_mem_cons.mp distinct
      exact .cons (sets_setMember field _ here) (ih later (by simpa using sameLength))

theorem readable_setField (field : Text) {Allowed : Float → Prop} {depth : Nat}
    {entries : List JsonObject} (texts : List Text)
    (readable : ∀ entry ∈ entries, Readable Allowed depth (.object entry)) :
    ∀ entry ∈ setField field entries texts, Readable Allowed depth (.object entry) := by
  induction entries generalizing texts with
  | nil => simp [setField]
  | cons entry entries ih =>
    obtain ⟨here, later⟩ := List.forall_mem_cons.mp readable
    cases texts with
    | nil => exact readable
    | cons text texts =>
      exact List.forall_mem_cons.mpr ⟨here.sets (sets_setMember field _ here.distinct), ih texts later⟩

end Manifest

/-! Output files. -/

/-- The failures to write an output file. -/
inductive InputError.OfWriting : InputError → Prop where
  | noDirectory (cause : FileError) : OfWriting (.noDirectory cause)
  | notWritten (unfinished : FilePath) : OfWriting (.notWritten unfinished)
  | notReplaced (path : FilePath) : OfWriting (.notReplaced path)

namespace Manifest

def unfinishedPath (path : FilePath) : FilePath := FilePath.withExtension path "tmp".toList

/-- How far the replacement of a file came, and the store that it left. The unfinished file may have been
broken off anywhere, and the step that moves it may fail for any reason. -/
inductive Course (store : FileStore) (path : FilePath) (content : Text) :
    Except InputError Unit × FileStore → Prop where
  | noDirectory {opened : FileStore} (cause : FileError) (adds : FileStore.AddsDirectories store opened) :
      Course store path content (.error (.noDirectory cause), opened)
  | notWritten {opened : FileStore} (adds : FileStore.AddsDirectories store opened) :
      Course store path content (.error (.notWritten (unfinishedPath path)), opened)
  | brokenOff {opened halfway : FileStore} (adds : FileStore.AddsDirectories store opened)
      (part : ByteArray) (wrote : opened.write (unfinishedPath path) part = .ok halfway) :
      Course store path content (.error (.notWritten (unfinishedPath path)), halfway)
  | notReplaced {opened written : FileStore} (adds : FileStore.AddsDirectories store opened)
      (wrote : opened.write (unfinishedPath path) (Text.toUtf8 content) = .ok written) :
      Course store path content (.error (.notReplaced path), written)
  | replaced {opened written moved : FileStore} (adds : FileStore.AddsDirectories store opened)
      (wrote : opened.write (unfinishedPath path) (Text.toUtf8 content) = .ok written)
      (renamed : written.rename (unfinishedPath path) path = .ok moved) :
      Course store path content (.ok (), moved)

/-- Where the unfinished file is there, it is left or moved. -/
theorem course_of_move {store opened written : FileStore} {path : FilePath} {content : Text}
    {result : Except InputError Unit × FileStore} (adds : FileStore.AddsDirectories store opened)
    (wrote : opened.write (unfinishedPath path) (Text.toUtf8 content) = .ok written)
    (ends : FileScript.Ends (do
      return (← FileScript.move (unfinishedPath path) path).mapError fun _ => .notReplaced path)
      written result) : Course store path content result := by
  obtain ⟨⟨outcome, later⟩, moves, finished⟩ := FileScript.exists_of_ends_bind ends
  obtain rfl := FileScript.eq_of_ends_pure finished
  cases FileScript.attempted_of_ends_move moves with
  | made renamed => exact .replaced adds wrote renamed
  | refused cause => exact .notReplaced adds wrote
  | stopped cause halfway => exact halfway.elim

theorem course_of_ends {path : FilePath} {content : Text} {store : FileStore}
    {result : Except InputError Unit × FileStore}
    (ends : FileScript.Ends (replace path content) store result) : Course store path content result := by
  obtain ⟨⟨prepared, opened⟩, begins, goesOn⟩ := FileScript.exists_of_ends_bind ends
  have adds := FileScript.addsDirectories_of_ends_makeParent begins
  cases prepared with
  | error cause =>
    obtain rfl := FileScript.eq_of_ends_pure goesOn
    exact .noDirectory cause adds
  | ok _ =>
    obtain ⟨⟨outcome, written⟩, writes, finishes⟩ := FileScript.exists_of_ends_bind goesOn
    cases FileScript.attempted_of_ends_writeBytes writes with
    | made wrote => exact course_of_move adds wrote finishes
    | refused cause =>
      obtain rfl := FileScript.eq_of_ends_pure finishes
      exact .notWritten adds
    | stopped cause halfway =>
      obtain ⟨size, wrote⟩ := halfway
      obtain rfl := FileScript.eq_of_ends_pure finishes
      exact .brokenOff adds _ wrote

theorem Course.written {store : FileStore} {path : FilePath} {content : Text}
    {result : Except InputError Unit × FileStore} (course : Course store path content result)
    (succeeded : result.1 = .ok ()) : result.2.read path = .ok (Text.toUtf8 content) := by
  cases course with
  | replaced adds wrote renamed => exact FileStore.read_renamed renamed (FileStore.read_written wrote)
  | _ => cases succeeded

/-- A file holds what replaces it, unless it cannot be written. -/
theorem run_replace (path : FilePath) (content : Text) (store : FileStore) :
    (((replace path content).run store).1 = .ok () ∧
      ((replace path content).run store).2.read path = .ok (Text.toUtf8 content)) ∨
    ∃ cause, cause.OfWriting ∧ ((replace path content).run store).1 = .error cause := by
  have course := course_of_ends (FileScript.ends_run (replace path content) store)
  generalize (replace path content).run store = result at course ⊢
  have held := course.written
  cases course with
  | noDirectory cause adds => exact .inr ⟨_, .noDirectory cause, rfl⟩
  | notWritten adds => exact .inr ⟨_, .notWritten _, rfl⟩
  | brokenOff adds part wrote => exact .inr ⟨_, .notWritten _, rfl⟩
  | notReplaced adds wrote => exact .inr ⟨_, .notReplaced path, rfl⟩
  | replaced adds wrote renamed => exact .inl ⟨rfl, held rfl⟩

end Manifest

end SpokenForm
