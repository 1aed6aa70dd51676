import SpokenForm.Files.Store
import SpokenForm.Text.Utf8

/-! Scripts of file operations. A script says which operation comes next and how to go on from its
outcome, so the same script runs on a store and on a disk. -/
namespace SpokenForm

/-- A sequence of file operations that ends with a value. -/
inductive FileScript (α : Type) where
  | done (value : α)
  | read (path : FilePath) (next : Except FileError ByteArray → FileScript α)
  | isFile (path : FilePath) (next : Bool → FileScript α)
  | createDirectories (path : FilePath) (next : Except FileError Unit → FileScript α)
  | write (path : FilePath) (bytes : ByteArray) (next : Except FileError Unit → FileScript α)
  | rename (source target : FilePath) (next : Except FileError Unit → FileScript α)

namespace FileScript

variable {α β : Type}

/-- Goes on with another script where this one ends. -/
def bind : FileScript α → (α → FileScript β) → FileScript β
  | done value, continuation => continuation value
  | read path next, continuation => read path fun outcome => (next outcome).bind continuation
  | isFile path next, continuation => isFile path fun outcome => (next outcome).bind continuation
  | createDirectories path next, continuation =>
    createDirectories path fun outcome => (next outcome).bind continuation
  | write path bytes next, continuation =>
    write path bytes fun outcome => (next outcome).bind continuation
  | rename source target next, continuation =>
    rename source target fun outcome => (next outcome).bind continuation

instance : Monad FileScript where
  pure := done
  bind := bind

/-- Applies a change to a store if it succeeds. -/
def attempt (store : FileStore) (change : Except FileError FileStore) :
    Except FileError Unit × FileStore :=
  match change with
  | .ok changed => (.ok (), changed)
  | .error cause => (.error cause, store)

/-- Carries out the next operation on a store. A finished script stays as it is. -/
def step : FileScript α → FileStore → FileScript α × FileStore
  | done value, store => (done value, store)
  | read path next, store => (next (store.read path), store)
  | isFile path next, store => (next (store.isFile path), store)
  | createDirectories path next, store =>
    let (outcome, changed) := attempt store (store.createDirectories path)
    (next outcome, changed)
  | write path bytes next, store =>
    let (outcome, changed) := attempt store (store.write path bytes)
    (next outcome, changed)
  | rename source target next, store =>
    let (outcome, changed) := attempt store (store.rename source target)
    (next outcome, changed)

/-- Carries out a script on a store. -/
def run : FileScript α → FileStore → α × FileStore
  | done value, store => (value, store)
  | read path next, store => (next (store.read path)).run store
  | isFile path next, store => (next (store.isFile path)).run store
  | createDirectories path next, store =>
    let (outcome, changed) := attempt store (store.createDirectories path)
    (next outcome).run changed
  | write path bytes next, store =>
    let (outcome, changed) := attempt store (store.write path bytes)
    (next outcome).run changed
  | rename source target next, store =>
    let (outcome, changed) := attempt store (store.rename source target)
    (next outcome).run changed

/-- A step does not change what a script comes to. -/
theorem run_step (script : FileScript α) (store : FileStore) :
    (script.step store).1.run (script.step store).2 = script.run store := by
  cases script <;> rfl

def readBytes (path : FilePath) : FileScript (Except FileError ByteArray) := read path done

def readText (path : FilePath) : FileScript (Except FileError Text) :=
  read path fun outcome => done (outcome.bind fun bytes =>
    match Text.ofUtf8? bytes with
    | some text => .ok text
    | none => .error .invalidText)

def hasFile (path : FilePath) : FileScript Bool := isFile path done

def makeDirectories (path : FilePath) : FileScript (Except FileError Unit) :=
  createDirectories path done

def makeParent (path : FilePath) : FileScript (Except FileError Unit) :=
  match FilePath.parent? path with
  | some parent => makeDirectories parent
  | none => done (.ok ())

/-- Makes a file, or replaces its bytes. -/
def writeBytes (path : FilePath) (bytes : ByteArray) : FileScript (Except FileError Unit) :=
  write path bytes done

def move (source target : FilePath) : FileScript (Except FileError Unit) :=
  rename source target done

/-- Goes on after a success; a failure stays. -/
def unlessFailed (outcome : Except FileError Unit) (script : FileScript (Except FileError Unit)) :
    FileScript (Except FileError Unit) :=
  match outcome with
  | .ok _ => script
  | .error cause => done (.error cause)

end FileScript

end SpokenForm
