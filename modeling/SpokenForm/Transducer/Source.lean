import SpokenForm.Numeral
import SpokenForm.Transducer

/-! Transducers spelled as text, one row a line: an arc, a final state with its weight, or a state
that is not final. Reading ends at the first place that does not fit. -/
namespace SpokenForm

/-- A row of a transducer's text. -/
inductive TransducerRow where
  | arc (source target input output : Nat) (weight? : Option Weight)
  | final (state : Nat) (weight? : Option Weight)
  | notFinal (state : Nat)
deriving DecidableEq, Repr

namespace TransducerRow

open Numeral

/-- States and labels are numbers below this one. -/
def numberLimit : Nat := 0x100000000

def number? (text : Text) : Option (Nat × Text) :=
  let (spelled, rest) := digits text
  if spelled.isEmpty || numberLimit ≤ valueOf spelled then none else some (valueOf spelled, rest)

def nextNumber? : Text → Option (Nat × Text)
  | '\t' :: text => number? text
  | _ => none

/-- A weight spelled as a word: undefined, or infinite. -/
def weightWord? (text : Text) : Option (Weight × Text) :=
  match afterWord? "nan".toList text with
  | some rest => some (⟨0x7FC00000⟩, rest)
  | none => (afterWord? "inf".toList text).map fun rest => (Weight.infinite, rest)

def weight? (text : Text) : Except Fault (Option (Weight × Text)) := do
  match ← decimal? text with
  | some (number, rest) =>
    return some (Weight.ofDecimal number.negative number.digits number.power, rest)
  | none => return weightWord? text

/-- A weight behind a tab, if there is one. -/
def nextWeight (text : Text) : Except Fault (Option Weight × Text) :=
  match text with
  | '\t' :: behind => do
    match ← weight? behind with
    | some (weight, rest) => return (some weight, rest)
    | none => return (none, text)
  | _ => .ok (none, text)

def arcNumbers? (text : Text) : Option (Nat × Nat × Nat × Nat × Text) := do
  let (source, text) ← number? text
  let (target, text) ← nextNumber? text
  let (input, text) ← nextNumber? text
  let (output, text) ← nextNumber? text
  return (source, target, input, output, text)

/-- The row at the front of a text, and what follows it. -/
def parse? (text : Text) : Except Fault (Option (TransducerRow × Text)) :=
  match arcNumbers? text with
  | some (source, target, input, output, rest) => do
    let (weight?, last) ← nextWeight rest
    return some (arc source target input output weight?, last)
  | none =>
    match number? text with
    | none => .ok none
    | some (state, rest) =>
      match afterInfinity? rest with
      | some last => .ok (some (notFinal state, last))
      | none => do
        let (weight?, last) ← nextWeight rest
        return some (final state weight?, last)
where
  afterInfinity? (text : Text) : Option Text :=
    if ("\tInfinity".toList).isPrefixOf text then some (text.drop 9) else none

/-- The rows of lines, up to the first line that is no row; a row that does not fill its line is the
last one. -/
def parseLines : List Text → Except Fault (List TransducerRow)
  | [] => .ok []
  | line :: lines => do
    match ← parse? line with
    | none => return []
    | some (row, rest) => if rest.isEmpty then return row :: (← parseLines lines) else return [row]

/-- The state that a row begins with. -/
def source : TransducerRow → Nat
  | arc source _ _ _ _ => source
  | final state _ => state
  | notFinal state => state

def stateCount : TransducerRow → Nat
  | arc source target _ _ _ => max source target + 1
  | final state _ => state + 1
  | notFinal state => state + 1

/-- A weight, if it does not close its path. -/
def open? (weight? : Option Weight) : Option Weight :=
  let weight := weight?.getD Weight.zero
  if weight.isInfinite then none else some weight

/-- Adds what a row says about its state. The last word on a final weight counts. -/
def addTo (nodes : Array (Node Weight)) (row : TransducerRow) : Array (Node Weight) :=
  match row with
  | arc source target input output weight? =>
    match open? weight? with
    | some weight => nodes.modify source fun node =>
      { node with arcs := node.arcs ++ [⟨input, output, weight, target⟩] }
    | none => nodes
  | final state weight? => nodes.modify state fun node => { node with final? := open? weight? }
  | notFinal _ => nodes

end TransducerRow

/-- The transducer of rows; the state of the first row is the start. -/
def Transducer.ofRows (rows : List TransducerRow) : Transducer Weight :=
  let count := (rows.map TransducerRow.stateCount).foldl max 0
  ⟨rows.head?.map TransducerRow.source,
    rows.foldl TransducerRow.addTo (Array.replicate count ⟨none, []⟩)⟩

def Transducer.ofSource (text : Text) : Except Numeral.Fault (Transducer Weight) :=
  (TransducerRow.parseLines (Text.split '\n' text)).map ofRows

end SpokenForm
