import SpokenForm.Files.Script

/-! What operations do to a store. The place of a path can be told from its names alone, whatever the
store holds, and an operation that succeeds changes the places it names and no others; so what was
read before is read again unless its own place was changed. -/
namespace SpokenForm.FileStore

/-! Places. -/

/-- The place that names lead to from a place, whether the directories in between exist or not. -/
def walk (place : Place) : List Text → Place
  | [] => place
  | name :: rest =>
    if name = ['.'] then walk place rest
    else if name = ['.', '.'] then walk place.dropLast rest
    else walk (place ++ [name]) rest

/-- The place of a path, whether its directories exist or not. -/
def placeOf (store : FileStore) (path : FilePath) : Place :=
  walk (store.origin path) (FilePath.names path)

theorem follow_cons (store : FileStore) (place : Place) (name : Text) (rest : List Text) :
    store.follow place (name :: rest) =
      store.follow place [name] >>= fun next => store.follow next rest := by
  cases there : store.entry? place with
  | none => simp [follow, there, bind, Except.bind]
  | some entry =>
    cases entry with
    | file bytes => simp [follow, there, bind, Except.bind]
    | directory =>
      by_cases dot : name = ['.']
      · simp [follow, there, dot, bind, Except.bind]
      · by_cases dots : name = ['.', '.'] <;> simp [follow, there, dot, dots, bind, Except.bind]

theorem follow_append (store : FileStore) (place : Place) (front back : List Text) :
    store.follow place (front ++ back) =
      store.follow place front >>= fun middle => store.follow middle back := by
  induction front generalizing place with
  | nil => rfl
  | cons name front ih =>
    rw [List.cons_append, follow_cons, follow_cons store place name front]
    cases store.follow place [name] with
    | error cause => rfl
    | ok next => exact ih next

theorem follow_eq_ok {store : FileStore} {place target : Place} {names : List Text}
    (followed : store.follow place names = .ok target) : target = walk place names := by
  induction names generalizing place with
  | nil => exact (Except.ok.inj followed).symm
  | cons name rest ih =>
    unfold follow at followed
    split at followed
    · cases followed
    · cases followed
    · by_cases dot : name = ['.']
      · simp only [dot, if_true] at followed
        simpa [walk, dot] using ih followed
      · by_cases dots : name = ['.', '.']
        · simp only [dots, if_true] at followed
          simpa [walk, dots] using ih followed
        · simp only [dot, dots, if_false] at followed
          simpa [walk, dot, dots] using ih followed

theorem locate_eq_ok {store : FileStore} {path : FilePath} {place : Place}
    (located : store.locate path = .ok place) : place = store.placeOf path := by
  unfold locate at located
  split at located
  · cases located
  · exact follow_eq_ok located

/-- The directories of a store are still there in a later one. -/
structure KeepsDirectories (store later : FileStore) : Prop where
  workingDirectory : later.workingDirectory = store.workingDirectory
  directories : ∀ place, store.entry? place = some .directory → later.entry? place = some .directory

theorem KeepsDirectories.refl (store : FileStore) : KeepsDirectories store store :=
  ⟨rfl, fun _ present => present⟩

theorem KeepsDirectories.trans {first second third : FileStore}
    (before : KeepsDirectories first second) (after : KeepsDirectories second third) :
    KeepsDirectories first third := by
  refine ⟨after.workingDirectory.trans before.workingDirectory, ?_⟩
  intro place present
  exact after.directories place (before.directories place present)

theorem KeepsDirectories.placeOf {store later : FileStore} (keeps : KeepsDirectories store later)
    (path : FilePath) : later.placeOf path = store.placeOf path := by
  simp [FileStore.placeOf, origin, keeps.workingDirectory]

theorem KeepsDirectories.follow {store later : FileStore} (keeps : KeepsDirectories store later)
    {place target : Place} {names : List Text} (followed : store.follow place names = .ok target) :
    later.follow place names = .ok target := by
  induction names generalizing place with
  | nil => exact followed
  | cons name rest ih =>
    unfold FileStore.follow at followed ⊢
    split at followed
    · cases followed
    · cases followed
    · rename_i here
      simp only [keeps.directories place here]
      split at followed
      · rename_i dot
        simpa [dot] using ih followed
      · rename_i dot
        split at followed
        · rename_i dots
          simpa [dots] using ih followed
        · rename_i dots
          simpa [dot, dots] using ih followed

theorem KeepsDirectories.locate {store later : FileStore} (keeps : KeepsDirectories store later)
    {path : FilePath} {place : Place} (located : store.locate path = .ok place) :
    later.locate path = .ok place := by
  unfold FileStore.locate at located ⊢
  split at located
  · cases located
  · rename_i nonempty
    have same : later.origin path = store.origin path := by simp [origin, keeps.workingDirectory]
    simpa [nonempty, same] using keeps.follow located

/-! What stands where after a change. -/

theorem lookup_filter_ne {entries : List (Place × Entry)} {place other : Place}
    (different : other ≠ place) :
    (entries.filter fun item => item.1 != place).lookup other = entries.lookup other := by
  induction entries with
  | nil => rfl
  | cons item entries ih =>
    obtain ⟨at_, entry⟩ := item
    by_cases here : at_ = place
    · subst here
      have missed : (other == at_) = false := by simpa using different
      simp [List.lookup_cons, missed, ih]
    · simp [here, List.lookup_cons, ih]

theorem lookup_filter_self (entries : List (Place × Entry)) (place : Place) :
    (entries.filter fun item => item.1 != place).lookup place = none := by
  rw [List.lookup_eq_none_iff]
  intro item member
  have kept := (List.mem_filter.mp member).2
  have different : item.1 ≠ place := by simpa using kept
  simpa using different.symm

theorem entry?_erase {store : FileStore} {place : Place} (inside : place ≠ []) (other : Place) :
    entry? (store.erase place) other = if other = place then none else store.entry? other := by
  by_cases same : other = place
  · subst same
    simp [ entry?, erase, inside, lookup_filter_self]
  · simp [ entry?, erase, same, lookup_filter_ne same]

theorem entry?_insert {store : FileStore} {place : Place} (inside : place ≠ []) (entry : Entry)
    (other : Place) :
    entry? (store.insert place entry) other =
      if other = place then some entry else store.entry? other := by
  by_cases same : other = place
  · subst same
    simp [ entry?, insert, inside]
  · have missed : (other == place) = false := by simpa using same
    simp [ entry?, insert, erase, same, List.lookup_cons, missed, lookup_filter_ne same]

theorem entry?_root (store : FileStore) : store.entry? [] = some .directory := rfl

theorem read_eq_ok_iff {store : FileStore} {path : FilePath} {bytes : ByteArray} :
    store.read path = .ok bytes ↔ store.locate path = .ok (store.placeOf path) ∧
      store.entry? (store.placeOf path) = some (.file bytes) := by
  constructor
  · intro found
    unfold read at found
    cases located : store.locate path with
    | error cause => simp [located, bind, Except.bind] at found
    | ok place =>
      obtain rfl := locate_eq_ok located
      refine ⟨rfl, ?_⟩
      simp only [located, bind, Except.bind] at found
      split at found
      · cases found
      · cases found
      · rename_i held
        rw [held, Except.ok.inj found]
  · rintro ⟨located, held⟩
    simp [read, located, held, bind, Except.bind]

/-! Operations that succeed. -/

theorem write_eq_ok {store changed : FileStore} {path : FilePath} {bytes : ByteArray}
    (written : store.write path bytes = .ok changed) :
    store.locate path = .ok (store.placeOf path) ∧
      store.entry? (store.placeOf path) ≠ some .directory ∧
      changed = store.insert (store.placeOf path) (.file bytes) := by
  unfold write at written
  cases located : store.locate path with
  | error cause => simp [located, bind, Except.bind] at written
  | ok place =>
    obtain rfl := locate_eq_ok located
    simp only [located, bind, Except.bind] at written
    split at written
    · cases written
    · rename_i noDirectory
      exact ⟨rfl, noDirectory, (Except.ok.inj written).symm⟩

theorem rename_eq_ok {store changed : FileStore} {source target : FilePath}
    (renamed : store.rename source target = .ok changed) :
    ∃ bytes, store.read source = .ok bytes ∧ store.locate target = .ok (store.placeOf target) ∧
      store.entry? (store.placeOf target) ≠ some .directory ∧
      changed = if store.placeOf source = store.placeOf target then store
        else (store.erase (store.placeOf source)).insert (store.placeOf target) (.file bytes) := by
  unfold rename at renamed
  cases located : store.locate source with
  | error cause => simp [located, bind, Except.bind] at renamed
  | ok from_ =>
    obtain rfl := locate_eq_ok located
    cases held : store.read source with
    | error cause => simp [located, held, bind, Except.bind] at renamed
    | ok bytes =>
      cases reached : store.locate target with
      | error cause => simp [located, held, reached, bind, Except.bind] at renamed
      | ok to_ =>
        obtain rfl := locate_eq_ok reached
        simp only [located, held, reached, bind, Except.bind] at renamed
        split at renamed
        · cases renamed
        · rename_i noDirectory
          exact ⟨bytes, rfl, rfl, noDirectory, (Except.ok.inj renamed).symm⟩

theorem remove_eq_ok {store changed : FileStore} {path : FilePath}
    (removed : store.remove path = .ok changed) :
    ∃ bytes, store.read path = .ok bytes ∧ changed = store.erase (store.placeOf path) := by
  unfold remove at removed
  cases located : store.locate path with
  | error cause => simp [located, bind, Except.bind] at removed
  | ok place =>
    obtain rfl := locate_eq_ok located
    cases held : store.read path with
    | error cause => simp [located, held, bind, Except.bind] at removed
    | ok bytes =>
      have same : store.erase (store.placeOf path) = changed := by
        simpa [located, held, bind, Except.bind, pure, Except.pure] using removed
      exact ⟨bytes, rfl, same.symm⟩

/-- A later store holds all that a store held, and maybe more directories. -/
structure AddsDirectories (store later : FileStore) : Prop where
  workingDirectory : later.workingDirectory = store.workingDirectory
  kept : ∀ place entry, store.entry? place = some entry → later.entry? place = some entry
  added : ∀ place bytes, later.entry? place = some (.file bytes) →
    store.entry? place = some (.file bytes)

theorem AddsDirectories.refl (store : FileStore) : AddsDirectories store store :=
  ⟨rfl, fun _ _ present => present, fun _ _ present => present⟩

theorem AddsDirectories.trans {first second third : FileStore} (before : AddsDirectories first second)
    (after : AddsDirectories second third) : AddsDirectories first third := by
  refine ⟨after.workingDirectory.trans before.workingDirectory, ?_, ?_⟩
  · intro place entry present
    exact after.kept place entry (before.kept place entry present)
  · intro place bytes present
    exact before.added place bytes (after.added place bytes present)

theorem AddsDirectories.keepsDirectories {store later : FileStore}
    (adds : AddsDirectories store later) : KeepsDirectories store later :=
  ⟨adds.workingDirectory, fun place => adds.kept place .directory⟩

theorem addsDirectories_insert {store : FileStore} {place : Place} (free : store.entry? place = none) :
    AddsDirectories store (store.insert place .directory) := by
  have inside : place ≠ [] := by
    rintro rfl
    simp [entry?_root] at free
  refine ⟨rfl, ?_, ?_⟩
  · intro other entry present
    have different : other ≠ place := by
      rintro rfl
      simp [free] at present
    simpa [entry?_insert inside, different] using present
  · intro other bytes present
    by_cases same : other = place
    · simp [entry?_insert inside, same] at present
    · simpa [entry?_insert inside, same] using present

theorem createFrom_eq_ok {store changed : FileStore} {place : Place} {names : List Text}
    (made : store.createFrom place names = .ok changed) : AddsDirectories store changed := by
  induction names generalizing store place with
  | nil =>
    obtain rfl := Except.ok.inj made
    exact .refl store
  | cons name rest ih =>
    unfold createFrom at made
    split at made
    · exact ih made
    · split at made
      · exact ih made
      · simp only at made
        split at made
        · exact ih made
        · cases made
        · rename_i free
          exact (addsDirectories_insert free).trans (ih made)

theorem createDirectories_eq_ok {store changed : FileStore} {path : FilePath}
    (made : store.createDirectories path = .ok changed) : AddsDirectories store changed :=
  createFrom_eq_ok made

/-! What is read afterwards. -/

theorem AddsDirectories.read {store later : FileStore} (adds : AddsDirectories store later)
    {path : FilePath} {bytes : ByteArray} (held : store.read path = .ok bytes) :
    later.read path = .ok bytes := by
  obtain ⟨located, present⟩ := read_eq_ok_iff.mp held
  have same := adds.keepsDirectories.placeOf path
  refine read_eq_ok_iff.mpr ⟨?_, ?_⟩
  · rw [same]
    exact adds.keepsDirectories.locate located
  · rw [same]
    exact adds.kept _ _ present

theorem inside_of_not_directory {store : FileStore} {place : Place}
    (noDirectory : store.entry? place ≠ some .directory) : place ≠ [] := by
  rintro rfl
  exact noDirectory (entry?_root store)

theorem keepsDirectories_of_write {store changed : FileStore} {path : FilePath} {bytes : ByteArray}
    (written : store.write path bytes = .ok changed) : KeepsDirectories store changed := by
  obtain ⟨-, noDirectory, rfl⟩ := write_eq_ok written
  refine ⟨rfl, fun place present => ?_⟩
  have different : place ≠ store.placeOf path := by
    rintro rfl
    exact noDirectory present
  simpa [entry?_insert (inside_of_not_directory noDirectory), different] using present

theorem read_written {store changed : FileStore} {path : FilePath} {bytes : ByteArray}
    (written : store.write path bytes = .ok changed) : changed.read path = .ok bytes := by
  have keeps := keepsDirectories_of_write written
  obtain ⟨located, noDirectory, rfl⟩ := write_eq_ok written
  refine read_eq_ok_iff.mpr ⟨?_, ?_⟩
  · rw [keeps.placeOf]
    exact keeps.locate located
  · rw [keeps.placeOf]
    simp [entry?_insert (inside_of_not_directory noDirectory)]

theorem read_of_write {store changed : FileStore} {path other : FilePath} {bytes held : ByteArray}
    (written : store.write path bytes = .ok changed)
    (apart : store.placeOf other ≠ store.placeOf path) (found : store.read other = .ok held) :
    changed.read other = .ok held := by
  have keeps := keepsDirectories_of_write written
  obtain ⟨-, noDirectory, rfl⟩ := write_eq_ok written
  obtain ⟨located, present⟩ := read_eq_ok_iff.mp found
  refine read_eq_ok_iff.mpr ⟨?_, ?_⟩
  · rw [keeps.placeOf]
    exact keeps.locate located
  · rw [keeps.placeOf]
    simpa [entry?_insert (inside_of_not_directory noDirectory), apart] using present

theorem inside_of_read {store : FileStore} {path : FilePath} {bytes : ByteArray}
    (held : store.read path = .ok bytes) : store.placeOf path ≠ [] := by
  intro root
  obtain ⟨-, present⟩ := read_eq_ok_iff.mp held
  simp [root, entry?_root] at present

theorem keepsDirectories_of_rename {store changed : FileStore} {source target : FilePath}
    (renamed : store.rename source target = .ok changed) : KeepsDirectories store changed := by
  obtain ⟨bytes, held, -, noDirectory, rfl⟩ := rename_eq_ok renamed
  split
  · exact .refl store
  · refine ⟨rfl, fun place present => ?_⟩
    have awayFromTarget : place ≠ store.placeOf target := by
      rintro rfl
      exact noDirectory present
    have awayFromSource : place ≠ store.placeOf source := by
      rintro rfl
      simp [(read_eq_ok_iff.mp held).2] at present
    simpa [entry?_insert (inside_of_not_directory noDirectory), entry?_erase (inside_of_read held),
      awayFromTarget, awayFromSource] using present

theorem read_renamed {store changed : FileStore} {source target : FilePath} {bytes : ByteArray}
    (renamed : store.rename source target = .ok changed) (held : store.read source = .ok bytes) :
    changed.read target = .ok bytes := by
  have keeps := keepsDirectories_of_rename renamed
  obtain ⟨moved, alsoHeld, located, noDirectory, rfl⟩ := rename_eq_ok renamed
  obtain rfl := Except.ok.inj (held.symm.trans alsoHeld)
  refine read_eq_ok_iff.mpr ⟨?_, ?_⟩
  · rw [keeps.placeOf]
    exact keeps.locate located
  · rw [keeps.placeOf]
    split
    · rename_i same
      rw [← same]
      exact (read_eq_ok_iff.mp held).2
    · simp [entry?_insert (inside_of_not_directory noDirectory)]

theorem read_of_rename {store changed : FileStore} {source target other : FilePath}
    {held : ByteArray} (renamed : store.rename source target = .ok changed)
    (fromSource : store.placeOf other ≠ store.placeOf source)
    (fromTarget : store.placeOf other ≠ store.placeOf target) (found : store.read other = .ok held) :
    changed.read other = .ok held := by
  have keeps := keepsDirectories_of_rename renamed
  obtain ⟨bytes, moved, -, noDirectory, rfl⟩ := rename_eq_ok renamed
  obtain ⟨located, present⟩ := read_eq_ok_iff.mp found
  refine read_eq_ok_iff.mpr ⟨?_, ?_⟩
  · rw [keeps.placeOf]
    exact keeps.locate located
  · rw [keeps.placeOf]
    split
    · exact present
    · simpa [entry?_insert (inside_of_not_directory noDirectory),
        entry?_erase (inside_of_read moved), fromSource, fromTarget] using present

end SpokenForm.FileStore
