import SpokenForm.Files.Path

/-! A store of files and directories, and what can go wrong with it. The store is ideal: it has no links, it
is never full, and an operation fails only where the names do not lead to what it needs, and then changes
nothing. `FileScript.Ends` tells what may come of the same operations on a disk that fails. -/
namespace SpokenForm

/-- Why an operation on a file failed. -/
inductive FileError where
  | notFound | alreadyExists | notDirectory | isDirectory | invalidText
  | other (description : Text)
deriving DecidableEq, Repr

def FileError.message : FileError → String
  | notFound => "No such file or directory (os error 2)"
  | alreadyExists => "File exists (os error 17)"
  | notDirectory => "Not a directory (os error 20)"
  | isDirectory => "Is a directory (os error 21)"
  | invalidText => "stream did not contain valid UTF-8"
  | other description => String.ofList description

/-- What stands at a place. -/
inductive Entry where
  | file (bytes : ByteArray)
  | directory

/-- Where a file or directory stands: the names from the root to it. -/
abbrev Place := List Text

/-- Files and directories by place. The root is always a directory. -/
structure FileStore where
  workingDirectory : Place
  entries : List (Place × Entry)

namespace FileStore

def entry? (store : FileStore) (place : Place) : Option Entry :=
  if place = [] then some .directory else store.entries.lookup place

def erase (store : FileStore) (place : Place) : FileStore :=
  { store with entries := store.entries.filter fun item => item.1 != place }

def insert (store : FileStore) (place : Place) (entry : Entry) : FileStore :=
  { store with entries := (place, entry) :: (store.erase place).entries }

/-- Follows names from a place. Every name but the last has to be a directory. -/
def follow (store : FileStore) (place : Place) : List Text → Except FileError Place
  | [] => .ok place
  | name :: rest =>
    match store.entry? place with
    | none => .error .notFound
    | some (.file _) => .error .notDirectory
    | some .directory =>
      if name = ['.'] then store.follow place rest
      else if name = ['.', '.'] then store.follow place.dropLast rest
      else store.follow (place ++ [name]) rest

def origin (store : FileStore) (path : FilePath) : Place :=
  if FilePath.isAbsolute path then [] else store.workingDirectory

/-- The place that a path leads to; something may stand there or not. -/
def locate (store : FileStore) (path : FilePath) : Except FileError Place :=
  if path = [] then .error .notFound
  else store.follow (store.origin path) (FilePath.names path)

def read (store : FileStore) (path : FilePath) : Except FileError ByteArray := do
  match store.entry? (← store.locate path) with
  | none => .error .notFound
  | some .directory => .error .isDirectory
  | some (.file bytes) => .ok bytes

def isFile (store : FileStore) (path : FilePath) : Bool := (store.read path).toOption.isSome

/-- Makes a file, or replaces its bytes. -/
def write (store : FileStore) (path : FilePath) (bytes : ByteArray) :
    Except FileError FileStore := do
  let place ← store.locate path
  match store.entry? place with
  | some .directory => .error .isDirectory
  | _ => .ok (store.insert place (.file bytes))

/-- Moves a file; a file at its target is replaced. -/
def rename (store : FileStore) (source target : FilePath) : Except FileError FileStore := do
  let from_ ← store.locate source
  let bytes ← store.read source
  let to_ ← store.locate target
  match store.entry? to_ with
  | some .directory => .error .isDirectory
  | _ => .ok (if from_ = to_ then store else (store.erase from_).insert to_ (.file bytes))

def remove (store : FileStore) (path : FilePath) : Except FileError FileStore := do
  let place ← store.locate path
  let _ ← store.read path
  return store.erase place

/-- Makes the directories that names lead through, from an existing directory on. -/
def createFrom (store : FileStore) (place : Place) : List Text → Except FileError FileStore
  | [] => .ok store
  | name :: rest =>
    if name = ['.'] then store.createFrom place rest
    else if name = ['.', '.'] then store.createFrom place.dropLast rest
    else
      let below := place ++ [name]
      match store.entry? below with
      | some .directory => store.createFrom below rest
      | some (.file _) => .error (if rest.isEmpty then .alreadyExists else .notDirectory)
      | none => (store.insert below .directory).createFrom below rest

def createDirectories (store : FileStore) (path : FilePath) : Except FileError FileStore :=
  store.createFrom (store.origin path) (FilePath.names path)

end FileStore

end SpokenForm
