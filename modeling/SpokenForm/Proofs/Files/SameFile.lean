import SpokenForm.Proofs.Files.Effect

/-! Files that a change leaves alone, told by place: the same bytes stand there before and after, or no
file stands there before and after. -/
namespace SpokenForm.FileStore

/-- A place holds the same file in a later store, or none in either. -/
def SameFile (store later : FileStore) (place : Place) : Prop :=
  ∀ bytes, later.entry? place = some (.file bytes) ↔ store.entry? place = some (.file bytes)

variable {store later changed : FileStore} {path source target : FilePath} {place : Place}
  {bytes : ByteArray}

theorem SameFile.refl (store : FileStore) (place : Place) : SameFile store store place :=
  fun _ => Iff.rfl

theorem SameFile.trans {third : FileStore} (before : SameFile store later place)
    (after : SameFile later third place) : SameFile store third place :=
  fun bytes => (after bytes).trans (before bytes)

theorem AddsDirectories.sameFile (adds : AddsDirectories store later) (place : Place) :
    SameFile store later place :=
  fun bytes => ⟨adds.added place bytes, adds.kept place (.file bytes)⟩

/-- What is read from a file is read again if the file is the same. -/
theorem SameFile.read (same : SameFile store later (store.placeOf path))
    (keeps : KeepsDirectories store later) (held : store.read path = .ok bytes) :
    later.read path = .ok bytes := by
  obtain ⟨located, present⟩ := read_eq_ok_iff.mp held
  refine read_eq_ok_iff.mpr ⟨?_, ?_⟩
  · rw [keeps.placeOf]
    exact keeps.locate located
  · rw [keeps.placeOf]
    exact (same bytes).mpr present

theorem sameFile_of_write (written : store.write path bytes = .ok changed)
    (apart : place ≠ store.placeOf path) : SameFile store changed place := by
  obtain ⟨-, noDirectory, rfl⟩ := write_eq_ok written
  intro held
  simp [entry?_insert (inside_of_not_directory noDirectory), apart]

theorem sameFile_of_rename (renamed : store.rename source target = .ok changed)
    (fromSource : place ≠ store.placeOf source) (fromTarget : place ≠ store.placeOf target) :
    SameFile store changed place := by
  obtain ⟨moved, held, -, noDirectory, rfl⟩ := rename_eq_ok renamed
  intro bytes
  split
  · exact Iff.rfl
  · simp [entry?_insert (inside_of_not_directory noDirectory), entry?_erase (inside_of_read held),
      fromSource, fromTarget]

theorem sameFile_of_remove (removed : store.remove path = .ok changed)
    (apart : place ≠ store.placeOf path) : SameFile store changed place := by
  obtain ⟨held, found, rfl⟩ := remove_eq_ok removed
  intro bytes
  simp [entry?_erase (inside_of_read found), apart]

theorem write_or_directory (located : store.locate path = .ok place) :
    (∃ changed, store.write path bytes = .ok changed) ∨ store.entry? place = some .directory := by
  obtain rfl := locate_eq_ok located
  by_cases directory : store.entry? (store.placeOf path) = some .directory
  · exact .inr directory
  · refine .inl ⟨store.insert (store.placeOf path) (.file bytes), ?_⟩
    unfold write
    simp only [located, bind, Except.bind]

end SpokenForm.FileStore
