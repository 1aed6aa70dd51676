import SpokenForm.Transducer

/-! How a transducer answers. An engine composes it with an acceptor of the input, and makes of the result
a machine with one path for each output, of which the shortest are taken. -/
namespace SpokenForm

/-- What an engine for transducers can do. A step that fails tells why. -/
structure Engine (W : Type) where
  sortArcs : Transducer W → Transducer W
  acceptor : List Nat → W → Transducer W
  compose : Transducer W → Transducer W → Except Text (Transducer W)
  projectOutput : Transducer W → Transducer W
  removeEmpty : Transducer W → Except Text (Transducer W)
  determinize : Transducer W → Except Text (Transducer W)
  shortestPaths : Nat → Transducer W → Except Text (Transducer W)
  paths : Transducer W → List (Ending W)

namespace Transducer

/-- The labels of a text, one for each byte. -/
def encode (text : Text) : List Nat := text.toUtf8.toList.map UInt8.toNat

/-- The text that labels spell. -/
def decode (labels : List Nat) : Except GrammarError Text :=
  let bytes := labels.filter (· ≠ 0)
  if bytes.all (· < 256) then
    match Text.ofUtf8? (ByteArray.mk (bytes.map UInt8.ofNat).toArray) with
    | some text => .ok text
    | none => .error .invalidOutput
  else .error .invalidOutput

def pathOf {W : Type} (ending : Ending W) : Except GrammarError (Path W) := do
  return ⟨← decode ending.labels, ending.weight⟩

end Transducer

namespace Engine

variable {W : Type} [WeightScale W]

/-- Tells which step it was that failed. -/
def during {α : Type} (context : EngineContext) (step : Except Text α) : Except GrammarError α :=
  step.mapError (GrammarError.engine context)

/-- The best distinct outputs of a machine that reads what it writes. -/
def bestOutputs (engine : Engine W) (machine : Transducer W) (n : Nat) :
    Except GrammarError (Lattice W) := do
  let plain ← during .removeEmpty (engine.removeEmpty machine)
  if plain.start?.isNone then return .empty
  let outputs ← during .determinize (engine.determinize plain)
  let best ← during .shortestPaths (engine.shortestPaths (max n 1) outputs)
  if best.start?.isNone then return .empty
  return .ofPaths (← (engine.paths best).mapM Transducer.pathOf)

/-- The best distinct outputs of an input, by a transducer whose arcs are in order. -/
def apply (engine : Engine W) (machine : Transducer W) : Grammar W := fun input n => do
  let accepted := engine.acceptor (Transducer.encode input) WeightScale.zero
  let composed ← during .compose (engine.compose accepted machine)
  if composed.start?.isNone then return .empty
  engine.bestOutputs (engine.projectOutput composed) n

/-- A transducer as a grammar. Its arcs are put in order once, as composing needs them. -/
def grammar (engine : Engine W) (machine : Transducer W) : Grammar W :=
  engine.apply (engine.sortArcs machine)

end Engine

end SpokenForm
