import SpokenForm.Text

/-! Paths of files: names between slashes, relative to a working directory unless they begin with a
slash. -/
namespace SpokenForm

abbrev FilePath := Text

namespace FilePath

def isAbsolute (path : FilePath) : Bool := path.head? == some '/'

/-- A path below a directory; an absolute path stays where it is. -/
def join (directory path : FilePath) : FilePath :=
  if isAbsolute path || directory.isEmpty then path
  else if directory.getLast? = some '/' then directory ++ path
  else directory ++ '/' :: path

/-- The names of a path in order. A slash at the end asks for a directory, as a dot does. -/
def names (path : FilePath) : List Text :=
  (Text.split '/' path).filter (!·.isEmpty) ++
    if path.getLast? = some '/' then [['.']] else []

/-- Drops slashes, and dots behind slashes, from the end of a path. The path and the result stand
last character first; a root is kept. -/
def dropTrailing : Text → Text
  | [] => []
  | '/' :: rest => if rest.isEmpty then ['/'] else dropTrailing rest
  | '.' :: rest => if rest.head? = some '/' then dropTrailing rest else '.' :: rest
  | c :: rest => c :: rest

/-- What stands before the last name of a path, and the name. A dot or two are no name. -/
def splitName? (path : FilePath) : Option (Text × Text) :=
  let reversed := dropTrailing path.reverse
  let name := (reversed.takeWhile (· != '/')).reverse
  if name = [] ∨ name = ['.'] ∨ name = ['.', '.'] then none
  else some ((reversed.dropWhile (· != '/')).reverse, name)

def fileName? (path : FilePath) : Option Text := (splitName? path).map Prod.snd

/-- A name up to its last dot, and what follows the dot. A dot in front belongs to the name. -/
def splitExtension (name : Text) : Text × Option Text :=
  let extension := (name.reverse.takeWhile (· != '.')).reverse
  match name.reverse.dropWhile (· != '.') with
  | [] => (name, none)
  | _ :: rest => if rest.isEmpty then (name, none) else (rest.reverse, some extension)

/-- The last name of a path, without its extension. -/
def fileStem? (path : FilePath) : Option Text :=
  (fileName? path).map fun name => (splitExtension name).1

def extension? (path : FilePath) : Option Text :=
  (fileName? path).bind fun name => (splitExtension name).2

/-- Replaces the extension of the last name, or adds one. -/
def withExtension (path : FilePath) (extension : Text) : FilePath :=
  match splitName? path with
  | some (before, name) => before ++ (splitExtension name).1 ++ '.' :: extension
  | none => path

/-- The directory that a path lies in. The root lies in none. -/
def parent? (path : FilePath) : Option FilePath :=
  let reversed := dropTrailing path.reverse
  if reversed = [] ∨ reversed = ['/'] then none
  else some (dropTrailing (reversed.dropWhile (· != '/'))).reverse

end FilePath

end SpokenForm
