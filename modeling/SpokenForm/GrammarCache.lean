import SpokenForm.Digest
import SpokenForm.Transducer.Compile

/-! A cache of compiled grammars. A compiled file is used while its stamp, the digest of the source
that it was compiled from, is the digest of the source as it is now. -/
namespace SpokenForm

/-- Where sources lie, where compiled grammars are kept, if anywhere, and whether those kept before
are to be replaced. The writer's number tells its unfinished files from those of others. -/
structure GrammarCache where
  grammarDirectory : FilePath
  cacheDirectory? : Option FilePath
  overwrite : Bool
  writer : Nat
deriving DecidableEq, Repr

namespace GrammarCache

def stageDirectory (cache : GrammarCache) (key : GrammarKey) : FilePath :=
  (cache.grammarDirectory.join key.language).join key.direction.component.toList

def expectedSource (cache : GrammarCache) (key : GrammarKey) (stage : Stage) : FilePath :=
  (cache.stageDirectory key).join (stage.name ++ ".fst").toList

/-- The names that a source may have, without what tells its form. -/
def sourceStems (key : GrammarKey) (stage : Stage) : List String :=
  if key.deterministic then [stage.name] else [stage.name ++ "_non_deterministic", stage.name]

/-- The sources in question, the preferred ones first. -/
def sourceCandidates (cache : GrammarCache) (key : GrammarKey) (stage : Stage) : List FilePath :=
  (sourceStems key stage).flatMap fun stem =>
    [(cache.stageDirectory key).join (stem ++ ".fst").toList,
      (cache.stageDirectory key).join (stem ++ ".fst.txt").toList]

def firstFile : List FilePath → FileScript (Option FilePath)
  | [] => return none
  | path :: rest => do
    if ← FileScript.hasFile path then return some path else firstFile rest

/-- The source for a key and a stage, if there is one. -/
def findSource (cache : GrammarCache) (key : GrammarKey) (stage : Stage) :
    FileScript (Option FilePath) :=
  firstFile (cache.sourceCandidates key stage)

/-- The place of a compiled grammar, if they are kept. -/
def cachedPath? (cache : GrammarCache) (key : GrammarKey) (stage : Stage) : Option FilePath :=
  cache.cacheDirectory?.map fun directory => directory.join (key.cacheFileName stage)

def stampPath (cached : FilePath) : FilePath := cached.withExtension "fst.md5".toList

def unfinishedPath (cache : GrammarCache) (cached : FilePath) : FilePath :=
  cached.withExtension ("fst." ++ toString cache.writer ++ ".tmp").toList

/-- The stamp of a compiled grammar, if both can be read. -/
def readStamp (cached : FilePath) : FileScript (Option Text) := do
  if ← FileScript.hasFile cached then
    return (← FileScript.readText (stampPath cached)).toOption.map Text.trim
  else return none

/-- Keeps a compiled grammar: its bytes go to an unfinished file, which then takes the place of the
compiled one, and the stamp comes last. The outcome is of no interest, since nothing depends on what
is kept. -/
def store (cache : GrammarCache) (cached : FilePath) (machine : Transducer Weight)
    (digest : Text) : FileScript Unit := do
  let prepared ← FileScript.makeParent cached
  let unfinished := cache.unfinishedPath cached
  let written ← FileScript.unlessFailed prepared
    (FileScript.writeBytes unfinished machine.toBytes)
  let moved ← FileScript.unlessFailed written (FileScript.move unfinished cached)
  let _ ← FileScript.unlessFailed moved
    (FileScript.writeBytes (stampPath cached) (Text.toUtf8 digest))

/-- The compiled grammar that is kept, if its stamp is the digest given and it can be read. -/
def fromCache (cache : GrammarCache) (cached : FilePath) (digest : Text) :
    FileScript (Option (Transducer Weight)) := do
  if cache.overwrite then return none
  else if (← readStamp cached) = some digest then
    return (← Transducer.readBinary cached).toOption
  else return none

/-- The grammar of a source, from the cache if it is there, or else compiled and kept. -/
def loadSource (cache : GrammarCache) (source : FilePath) (cached? : Option FilePath) :
    FileScript (Except GrammarError (Transducer Weight)) := do
  match ← FileScript.readBytes source with
  | .error cause => return .error (.io source cause)
  | .ok bytes =>
    match cached? with
    | none => Transducer.compile source
    | some cached =>
      let digest := Digest.hex bytes
      match ← cache.fromCache cached digest with
      | some machine => return .ok machine
      | none =>
        match ← Transducer.compile source with
        | .error fault => return .error fault
        | .ok machine =>
          cache.store cached machine digest
          return .ok machine

/-- The grammar for a key and a stage. Without a source a compiled grammar will do; there may be
neither. -/
def load (cache : GrammarCache) (key : GrammarKey) (stage : Stage) :
    FileScript (Except GrammarError (Option (Transducer Weight))) := do
  match ← cache.findSource key stage, cache.cachedPath? key stage with
  | some source, cached? => return (← cache.loadSource source cached?).map some
  | none, none => return .ok none
  | none, some cached =>
    if cache.overwrite then return .ok none
    else if ← FileScript.hasFile cached then return (← Transducer.readBinary cached).map some
    else return .ok none

end GrammarCache

end SpokenForm
