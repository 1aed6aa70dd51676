import SpokenForm.Transducer

/-! Transducers as bytes: a header that tells the kind of machine, then the states with their arcs. All
numbers stand with their lowest byte first. -/
namespace SpokenForm

namespace Binary

def bytesOf : (count number : Nat) → List UInt8
  | 0, _ => []
  | count + 1, number => UInt8.ofNat number :: bytesOf count (number / 256)

/-- The number at the front of a byte sequence, and what follows it. -/
def number? : (count : Nat) → List UInt8 → Option (Nat × List UInt8)
  | 0, bytes => some (0, bytes)
  | _ + 1, [] => none
  | count + 1, byte :: bytes =>
    (number? count bytes).map fun (high, rest) => (byte.toNat + 256 * high, rest)

def bytesOfWord (word : Text) : List UInt8 :=
  bytesOf 4 word.length ++ word.map fun c => UInt8.ofNat c.toNat

/-- What follows given bytes. -/
def after? : (expected bytes : List UInt8) → Option (List UInt8)
  | [], bytes => some bytes
  | wanted :: expected, byte :: bytes => if wanted = byte then after? expected bytes else none
  | _ :: _, [] => none

def repeat? {α : Type} (item? : List UInt8 → Option (α × List UInt8)) :
    (count : Nat) → List UInt8 → Option (List α × List UInt8)
  | 0, bytes => some ([], bytes)
  | count + 1, bytes => do
    let (item, bytes) ← item? bytes
    let (items, bytes) ← repeat? item? count bytes
    return (item :: items, bytes)

/-- The first bytes of every machine, and the names of its kind. -/
def kind : List UInt8 :=
  bytesOf 4 2125659606 ++ bytesOfWord "vector".toList ++ bytesOfWord "standard".toList ++ bytesOf 4 2

/-- A start behind all states stands for none: all bits of its number are set. -/
def noStart : Nat := 0xFFFFFFFFFFFFFFFF

def bytesOfArc (arc : Arc Weight Nat) : List UInt8 :=
  bytesOf 4 arc.input ++ bytesOf 4 arc.output ++ bytesOf 4 arc.weight.bits.toNat ++
    bytesOf 4 arc.target

/-- A state in bytes; one that is not final has an infinite weight. -/
def bytesOfNode (node : Node Weight) : List UInt8 :=
  bytesOf 4 (node.final?.getD Weight.infinite).bits.toNat ++ bytesOf 8 node.arcs.length ++
    node.arcs.flatMap bytesOfArc

def arcCount (machine : Transducer Weight) : Nat :=
  machine.nodes.foldl (fun count node => count + node.arcs.length) 0

def bytesOfTransducer (machine : Transducer Weight) : List UInt8 :=
  kind ++ bytesOf 4 0 ++ bytesOf 8 0 ++ bytesOf 8 (machine.start?.getD noStart) ++
    bytesOf 8 machine.nodes.size ++ bytesOf 8 (arcCount machine) ++
    machine.nodes.toList.flatMap bytesOfNode

def weight? (bytes : List UInt8) : Option (Weight × List UInt8) :=
  (number? 4 bytes).map fun (bits, rest) => (⟨UInt32.ofNat bits⟩, rest)

def arc? (bytes : List UInt8) : Option (Arc Weight Nat × List UInt8) := do
  let (input, bytes) ← number? 4 bytes
  let (output, bytes) ← number? 4 bytes
  let (weight, bytes) ← weight? bytes
  let (target, bytes) ← number? 4 bytes
  return (⟨input, output, weight, target⟩, bytes)

/-- A state at the front of a byte sequence. Infinite weights close their paths. -/
def node? (bytes : List UInt8) : Option (Node Weight × List UInt8) := do
  let (final, bytes) ← weight? bytes
  let (count, bytes) ← number? 8 bytes
  let (arcs, bytes) ← repeat? arc? count bytes
  return (⟨if final.isInfinite then none else some final,
    arcs.filter fun arc => !arc.weight.isInfinite⟩, bytes)

def transducer? (bytes : List UInt8) : Option (Transducer Weight) := do
  let bytes ← after? kind bytes
  let (_, bytes) ← number? 4 bytes
  let (_, bytes) ← number? 8 bytes
  let (start, bytes) ← number? 8 bytes
  let (size, bytes) ← number? 8 bytes
  let (_, bytes) ← number? 8 bytes
  let (nodes, _) ← repeat? node? size bytes
  return ⟨if start = noStart then none else some start, nodes.toArray⟩

end Binary

namespace Transducer

def toBytes (machine : Transducer Weight) : ByteArray :=
  ByteArray.mk (Binary.bytesOfTransducer machine).toArray

def ofBytes? (bytes : ByteArray) : Option (Transducer Weight) :=
  Binary.transducer? bytes.toList

end Transducer

end SpokenForm
