import SpokenForm.Proofs.Files.Effect
import SpokenForm.Proofs.Text

/-! What scripts of file operations come to: a script behind another starts with the store that the
first one leaves, and asking a store changes nothing. -/
namespace SpokenForm.FileScript

variable {α β : Type}

@[simp]
theorem run_pure (value : α) (store : FileStore) : (pure value : FileScript α).run store =
    (value, store) := rfl

@[simp]
theorem run_done (value : α) (store : FileStore) : (done value).run store = (value, store) := rfl

@[simp]
theorem run_bind (script : FileScript α) (next : α → FileScript β) (store : FileStore) :
    (script >>= next).run store = (next (script.run store).1).run (script.run store).2 := by
  change (script.bind next).run store = _
  induction script generalizing store with
  | done value => rfl
  | read path after ih => exact ih _ store
  | isFile path after ih => exact ih _ store
  | createDirectories path after ih => exact ih _ _
  | write path bytes after ih => exact ih _ _
  | rename source target after ih => exact ih _ _

@[simp]
theorem unlessFailed_ok (outcome : Unit) (script : FileScript (Except FileError Unit)) :
    unlessFailed (.ok outcome) script = script := rfl

@[simp]
theorem unlessFailed_error (cause : FileError) (script : FileScript (Except FileError Unit)) :
    unlessFailed (.error cause) script = done (.error cause) := rfl

@[simp]
theorem attempt_ok (store changed : FileStore) : attempt store (.ok changed) = (.ok (), changed) :=
  rfl

@[simp]
theorem attempt_error (store : FileStore) (cause : FileError) :
    attempt store (.error cause) = (.error cause, store) := rfl

@[simp]
theorem run_readBytes (path : FilePath) (store : FileStore) :
    (readBytes path).run store = (store.read path, store) := rfl

theorem run_readText (path : FilePath) (store : FileStore) :
    ((readText path).run store).2 = store := rfl

theorem readText_eq_ok {path : FilePath} {store : FileStore} {text : Text}
    (found : ((readText path).run store).1 = .ok text) :
    store.read path = .ok (Text.toUtf8 text) := by
  change (store.read path).bind _ = .ok text at found
  cases held : store.read path with
  | error cause => simp [held, Except.bind] at found
  | ok bytes =>
    simp only [held, Except.bind] at found
    cases spelled : Text.ofUtf8? bytes with
    | none => simp [spelled] at found
    | some other =>
      have same : other = text := by simpa [spelled] using found
      rw [Text.ofUtf8?_eq_some.mp spelled, same]

theorem readText_of_read {path : FilePath} {store : FileStore} {text : Text}
    (held : store.read path = .ok (Text.toUtf8 text)) :
    ((readText path).run store).1 = .ok text := by
  have spelled : Text.ofUtf8? (Text.toUtf8 text) = some text := Text.ofUtf8?_eq_some.mpr rfl
  simp [readText, run, held, Except.bind, spelled]

@[simp]
theorem run_hasFile (path : FilePath) (store : FileStore) :
    (hasFile path).run store = (store.isFile path, store) := rfl

@[simp]
theorem run_writeBytes (path : FilePath) (bytes : ByteArray) (store : FileStore) :
    (writeBytes path bytes).run store = attempt store (store.write path bytes) := rfl

@[simp]
theorem run_move (source target : FilePath) (store : FileStore) :
    (move source target).run store = attempt store (store.rename source target) := rfl

theorem run_makeParent (path : FilePath) (store : FileStore) :
    ((makeParent path).run store).1 = .ok () ∧
        FileStore.AddsDirectories store ((makeParent path).run store).2 ∨
      (∃ cause, ((makeParent path).run store).1 = .error cause) ∧
        ((makeParent path).run store).2 = store := by
  unfold makeParent
  cases FilePath.parent? path with
  | none => exact .inl ⟨rfl, .refl store⟩
  | some parent =>
    cases made : store.createDirectories parent with
    | error cause => exact .inr (by simp [makeDirectories, run, attempt, made])
    | ok changed =>
      have adds := FileStore.createDirectories_eq_ok made
      exact .inl (by simpa [makeDirectories, run, attempt, made] using adds)

end SpokenForm.FileScript
