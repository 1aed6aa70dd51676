import SpokenForm.CommandLine.Program

/-! The command: it carries out scripts on the disk, prints, and tells how it went. -/
namespace SpokenForm.CommandLine

/-- A failed operation on a file as far as a script can tell it from others. -/
def faultOf : IO.Error → FileError
  | .noFileOrDirectory _ _ _ => .notFound
  | .noSuchThing _ _ _ => .notFound
  | .alreadyExists _ _ _ => .alreadyExists
  | .inappropriateType _ code _ => if code = 21 then .isDirectory else .notDirectory
  | fault => .other fault.toString.toList

def outcomeOf {α : Type} (operation : IO α) : IO (Except FileError α) := do
  match ← operation.toBaseIO with
  | .ok value => return .ok value
  | .error fault => return .error (faultOf fault)

def perform {α : Type} : FileScript α → IO α
  | .done value => return value
  | .read path next => do
    perform (next (← outcomeOf (IO.FS.readBinFile (String.ofList path))))
  | .isFile path next => do
    let outcome ← outcomeOf (IO.FS.readBinFile (String.ofList path))
    perform (next outcome.toBool)
  | .createDirectories path next => do
    perform (next (← outcomeOf (IO.FS.createDirAll (String.ofList path))))
  | .write path bytes next => do
    perform (next (← outcomeOf (IO.FS.writeBinFile (String.ofList path) bytes)))
  | .rename source target next => do
    perform (next (← outcomeOf (IO.FS.rename (String.ofList source) (String.ofList target))))

def environmentText (name : String) : IO (Option Text) := do
  return (← IO.getEnv name).map String.toList

/-- What the environment says of the user and the process. -/
def surroundings : IO Surroundings := do
  let home? ← environmentText "HOME"
  return {
    dataDirectory? := userDirectory? (← environmentText "XDG_DATA_HOME") home? ".local/share".toList
    settingsDirectory? := userDirectory? (← environmentText "XDG_CONFIG_HOME") home? ".config".toList
    processors := 1
    process := ← IO.monoNanosNow }

/-- Does what the options ask for, and tells the exit code. -/
def execute (options : Options) : IO UInt32 := do
  match ← perform (run (← surroundings) options) with
  | .ok lines =>
    for line in lines do
      IO.println (String.ofList line)
    return 0
  | .error fault =>
    IO.eprintln ("Error: " ++ fault.message)
    match fault.cause? with
    | some cause => IO.eprintln ("\nCaused by:\n    " ++ cause)
    | none => return 1
    return 1

end SpokenForm.CommandLine

open SpokenForm.CommandLine in
/-- The command with its arguments. -/
def main (arguments : List String) : IO UInt32 := do
  match parse (arguments.map String.toList) with
  | .error fault =>
    IO.eprintln ("error: " ++ fault.message)
    return 2
  | .ok .help =>
    IO.println help
    return 0
  | .ok .version =>
    IO.println version
    return 0
  | .ok (.run options) => execute options
