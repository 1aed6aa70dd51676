import SpokenForm.Files.Script
import SpokenForm.Transducer.Binary
import SpokenForm.Transducer.Operations
import SpokenForm.Transducer.Source

/-! Transducers from files, whose names tell the form they are in. -/
namespace SpokenForm.Transducer

def decodeBinary (bytes : ByteArray) : Except GrammarError (Transducer Weight) :=
  match ofBytes? bytes with
  | some machine => .ok machine
  | none => .error (.engine .read "no transducer in binary form".toList)

def decodeSource (bytes : ByteArray) : Except GrammarError (Transducer Weight) :=
  match Text.ofUtf8? bytes with
  | none => .error (.engine .readText FileError.invalidText.message.toList)
  | some text =>
    match ofSource text with
    | .ok machine => .ok machine
    | .error _ => .error (.engine .readText "malformed exponent".toList)

def isSourcePath (path : FilePath) : Bool :=
  (FilePath.extension? path).any fun extension => extension.map Char.toLower == "txt".toList

/-- The outcome of reading bytes, where a failure to read is a fault of the engine. -/
def afterReading (context : EngineContext)
    (decode : ByteArray → Except GrammarError (Transducer Weight)) :
    Except FileError ByteArray → Except GrammarError (Transducer Weight)
  | .ok bytes => decode bytes
  | .error cause => .error (.engine context cause.message.toList)

def readBinary (path : FilePath) : FileScript (Except GrammarError (Transducer Weight)) := do
  return afterReading .read decodeBinary (← FileScript.readBytes path)

/-- The transducer of a file in the form that its name tells. -/
def compile (path : FilePath) : FileScript (Except GrammarError (Transducer Weight)) := do
  if isSourcePath path then
    return afterReading .readText decodeSource (← FileScript.readBytes path)
  else readBinary path

end SpokenForm.Transducer
