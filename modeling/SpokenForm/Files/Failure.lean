import SpokenForm.Files.Script

/-! Scripts on a disk that may fail. Any operation may be refused, and one that fails halfway leaves what it
has done: some of the directories it was to make, or a file that holds no more than the beginning of what
was written. -/
namespace SpokenForm

/-- Some of the directories of a path are made. -/
def FileStore.MakesSome (store : FileStore) (path : FilePath) (later : FileStore) : Prop :=
  ∃ made, made <+: FilePath.names path ∧ store.createFrom (store.origin path) made = .ok later

/-- A file holds the first of some bytes; it is empty if only its old bytes were taken away. -/
def FileStore.WritesSome (store : FileStore) (path : FilePath) (bytes : ByteArray) (later : FileStore) :
    Prop :=
  ∃ size, store.write path (bytes.extract 0 size) = .ok later

/-- What comes of a change that may fail: it is made, or refused, or broken off. -/
inductive FileScript.Attempted (store : FileStore) (change : Except FileError FileStore)
    (broken : FileStore → Prop) : Except FileError Unit → FileStore → Prop where
  | made {later : FileStore} (succeeds : change = .ok later) : Attempted store change broken (.ok ()) later
  | refused (cause : FileError) : Attempted store change broken (.error cause) store
  | stopped {later : FileStore} (cause : FileError) (halfway : broken later) :
    Attempted store change broken (.error cause) later

/-- What a script may come to on a disk that may fail. -/
inductive FileScript.Ends {α : Type} : FileScript α → FileStore → α × FileStore → Prop where
  | done (value : α) (store : FileStore) : Ends (.done value) store (value, store)
  | read {path : FilePath} {next : Except FileError ByteArray → FileScript α} {store : FileStore}
    {outcome : Except FileError ByteArray} {result : α × FileStore}
    (found : outcome = store.read path ∨ ∃ cause, outcome = .error cause)
    (rest : Ends (next outcome) store result) : Ends (.read path next) store result
  | isFile {path : FilePath} {next : Bool → FileScript α} {store : FileStore} {answer : Bool}
    {result : α × FileStore} (found : answer = store.isFile path ∨ answer = false)
    (rest : Ends (next answer) store result) : Ends (.isFile path next) store result
  | createDirectories {path : FilePath} {next : Except FileError Unit → FileScript α}
    {store later : FileStore} {outcome : Except FileError Unit} {result : α × FileStore}
    (made : Attempted store (store.createDirectories path) (store.MakesSome path) outcome later)
    (rest : Ends (next outcome) later result) : Ends (.createDirectories path next) store result
  | write {path : FilePath} {bytes : ByteArray} {next : Except FileError Unit → FileScript α}
    {store later : FileStore} {outcome : Except FileError Unit} {result : α × FileStore}
    (wrote : Attempted store (store.write path bytes) (store.WritesSome path bytes) outcome later)
    (rest : Ends (next outcome) later result) : Ends (.write path bytes next) store result
  | rename {source target : FilePath} {next : Except FileError Unit → FileScript α}
    {store later : FileStore} {outcome : Except FileError Unit} {result : α × FileStore}
    (moved : Attempted store (store.rename source target) (fun _ => False) outcome later)
    (rest : Ends (next outcome) later result) : Ends (.rename source target next) store result

end SpokenForm
