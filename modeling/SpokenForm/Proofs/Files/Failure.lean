import SpokenForm.Files.Failure
import SpokenForm.Proofs.Files.Effect

/-! What scripts may come to on a disk that may fail. What a store makes of a script is one of it, and a
script behind another goes on from what may have come of the first. -/
namespace SpokenForm

namespace FileStore

variable {store later : FileStore} {path : FilePath}

theorem MakesSome.addsDirectories (some_ : store.MakesSome path later) : AddsDirectories store later := by
  obtain ⟨made, -, created⟩ := some_
  exact createFrom_eq_ok created

end FileStore

namespace FileScript

variable {α β : Type}

theorem attempted_attempt (store : FileStore) (change : Except FileError FileStore)
    (broken : FileStore → Prop) :
    Attempted store change broken (attempt store change).1 (attempt store change).2 := by
  cases change with
  | ok later => exact .made rfl
  | error cause => exact .refused cause

/-- A disk may not fail at all. -/
theorem ends_run (script : FileScript α) (store : FileStore) : Ends script store (script.run store) := by
  induction script generalizing store with
  | done value => exact .done value store
  | read path next ih => exact .read (.inl rfl) (ih _ store)
  | isFile path next ih => exact .isFile (.inl rfl) (ih _ store)
  | createDirectories path next ih => exact .createDirectories (attempted_attempt ..) (ih _ _)
  | write path bytes next ih => exact .write (attempted_attempt ..) (ih _ _)
  | rename source target next ih => exact .rename (attempted_attempt ..) (ih _ _)

/-- A script behind another starts with a store that the first one may leave. -/
theorem exists_of_ends_bind {script : FileScript α} {next : α → FileScript β} {store : FileStore}
    {result : β × FileStore} (ends : Ends (script >>= next) store result) :
    ∃ middle, Ends script store middle ∧ Ends (next middle.1) middle.2 result := by
  change Ends (script.bind next) store result at ends
  induction script generalizing store with
  | done value => exact ⟨(value, store), .done value store, ends⟩
  | read path after ih =>
    cases ends with
    | read found rest =>
      obtain ⟨middle, first, second⟩ := ih _ rest
      exact ⟨middle, .read found first, second⟩
  | isFile path after ih =>
    cases ends with
    | isFile found rest =>
      obtain ⟨middle, first, second⟩ := ih _ rest
      exact ⟨middle, .isFile found first, second⟩
  | createDirectories path after ih =>
    cases ends with
    | createDirectories made rest =>
      obtain ⟨middle, first, second⟩ := ih _ rest
      exact ⟨middle, .createDirectories made first, second⟩
  | write path bytes after ih =>
    cases ends with
    | write wrote rest =>
      obtain ⟨middle, first, second⟩ := ih _ rest
      exact ⟨middle, .write wrote first, second⟩
  | rename source target after ih =>
    cases ends with
    | rename moved rest =>
      obtain ⟨middle, first, second⟩ := ih _ rest
      exact ⟨middle, .rename moved first, second⟩

theorem Ends.bind {script : FileScript α} {next : α → FileScript β} {store : FileStore}
    {middle : α × FileStore} {result : β × FileStore} (first : Ends script store middle)
    (second : Ends (next middle.1) middle.2 result) : Ends (script >>= next) store result := by
  change Ends (script.bind next) store result
  induction first with
  | done value store => exact second
  | read found _ ih => exact .read found (ih second)
  | isFile found _ ih => exact .isFile found (ih second)
  | createDirectories made _ ih => exact .createDirectories made (ih second)
  | write wrote _ ih => exact .write wrote (ih second)
  | rename moved _ ih => exact .rename moved (ih second)

theorem eq_of_ends_pure {value : α} {store : FileStore} {result : α × FileStore}
    (ends : Ends (pure value) store result) : result = (value, store) := by
  cases ends with
  | done value store => rfl

theorem attempted_of_ends_writeBytes {path : FilePath} {bytes : ByteArray} {store : FileStore}
    {result : Except FileError Unit × FileStore} (ends : Ends (writeBytes path bytes) store result) :
    Attempted store (store.write path bytes) (store.WritesSome path bytes) result.1 result.2 := by
  cases ends with
  | write wrote rest =>
    cases rest with
    | done outcome later => exact wrote

theorem attempted_of_ends_move {source target : FilePath} {store : FileStore}
    {result : Except FileError Unit × FileStore} (ends : Ends (move source target) store result) :
    Attempted store (store.rename source target) (fun _ => False) result.1 result.2 := by
  cases ends with
  | rename moved rest =>
    cases rest with
    | done outcome later => exact moved

/-- Making a directory adds directories at most. -/
theorem addsDirectories_of_ends_makeParent {path : FilePath} {store : FileStore}
    {result : Except FileError Unit × FileStore} (ends : Ends (makeParent path) store result) :
    FileStore.AddsDirectories store result.2 := by
  unfold makeParent at ends
  split at ends
  · cases ends with
    | createDirectories made rest =>
      cases rest with
      | done outcome later =>
        cases made with
        | made succeeds => exact FileStore.createDirectories_eq_ok succeeds
        | refused cause => exact .refl _
        | stopped cause halfway => exact halfway.addsDirectories
  · cases ends with
    | done outcome later => exact .refl _

end FileScript

end SpokenForm
