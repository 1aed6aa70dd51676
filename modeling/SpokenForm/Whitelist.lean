import SpokenForm.Grammar

/-! Whitelists: phrases with fixed replacements. A listed phrase of the input becomes a finished
name token, and only what stands between listed phrases is left to a grammar. -/
namespace SpokenForm

/-- Phrases, their words joined by single spaces, with their replacements in order of insertion,
and the number of words of the longest phrase. -/
structure Whitelist where
  entries : List (Text × Text)
  longest : Nat
deriving DecidableEq, Repr

/-- A run of the input: left to a grammar, or replaced. -/
inductive Segment where
  | plain (text : Text)
  | listed (replacement : Text)
deriving DecidableEq, Repr

namespace Whitelist

def empty : Whitelist := ⟨[], 0⟩

def get? (list : Whitelist) (phrase : Text) : Option Text := list.entries.lookup phrase

/-- Lists a phrase. The first replacement of a phrase stays, and a blank phrase is ignored. -/
def insert (list : Whitelist) (phrase replacement : Text) : Whitelist :=
  let words := phrase.words
  let joined := Text.joinSpaced words
  if words.isEmpty then list
  else
    ⟨if (list.get? joined).isSome then list.entries else list.entries ++ [(joined, replacement)],
      max list.longest words.length⟩

/-- The written and the spoken form on a line: its first two columns, if neither is blank. -/
def formsOfLine? (line : Text) : Option (Text × Text) :=
  match (Text.split '\t' line).map Text.trim with
  | written :: spoken :: _ =>
    if written.isEmpty || spoken.isEmpty then none else some (written, spoken)
  | _ => none

/-- Adds the entries of lines, the first of which has the given number. A line without two forms is
reported by its number. -/
def addLines (list : Whitelist) (direction : Direction) (number : Nat) :
    List Text → Except Nat Whitelist
  | [] => .ok list
  | line :: rest =>
    if line.trim.isEmpty then list.addLines direction (number + 1) rest
    else match formsOfLine? line with
      | none => .error number
      | some (written, spoken) =>
        let added := match direction with
          | .normalize => list.insert written spoken
          | .inverse => list.insert spoken written
        added.addLines direction (number + 1) rest

def parse (content : Text) (direction : Direction) : Except Nat Whitelist :=
  empty.addLines direction 1 content.lines

/-- The longest listed phrase of at most `length` words at the start of a list of words: the number
of its words, and its replacement. -/
def longestMatch? (list : Whitelist) (words : List Text) : (length : Nat) → Option (Nat × Text)
  | 0 => none
  | length + 1 =>
    match list.get? (Text.joinSpaced (words.take (length + 1))) with
    | some replacement => some (length + 1, replacement)
    | none => list.longestMatch? words length

/-- The segment of unlisted words, which stand last first, if there are any. -/
def plainSegment (plain : List Text) : List Segment :=
  if plain.isEmpty then [] else [.plain (Text.joinSpaced plain.reverse)]

/-- Segments of words, where `skip` words belong to a phrase already matched and `plain` holds the
unlisted words in front, last first. -/
def segmentsFrom (list : Whitelist) (plain : List Text) (skip : Nat) : List Text → List Segment
  | [] => plainSegment plain
  | word :: rest =>
    match skip with
    | skip + 1 => list.segmentsFrom plain skip rest
    | 0 =>
      match list.longestMatch? (word :: rest) (min list.longest (rest.length + 1)) with
      | some (length, replacement) =>
        plainSegment plain ++ .listed replacement :: list.segmentsFrom [] (length - 1) rest
      | none => list.segmentsFrom (word :: plain) 0 rest

/-- Cuts an input into segments: from left to right the longest listed phrase at a word is taken. -/
def segments (list : Whitelist) (input : Text) : List Segment := list.segmentsFrom [] 0 input.words

end Whitelist

def escapeChar (c : Char) : Text := if c = '\\' ∨ c = '"' then ['\\', c] else [c]

def nameToken (text : Text) : Text :=
  "tokens \x7b name: \"".toList ++ text.flatMap escapeChar ++ "\" \x7d".toList

namespace Lattice

variable {W : Type} [WeightScale W]

/-- The best paths of several lattices, one after the other. -/
def concatenation (best : List (Path W)) : Path W :=
  ⟨Text.joinSpaced (best.map Path.text),
    best.foldl (fun total path => WeightScale.add total path.weight) WeightScale.zero⟩

/-- The same, with one path in the place of another. -/
def substitution (best : List (Path W)) (place : Nat) (replaced path : Path W) : Path W :=
  ⟨Text.joinSpaced ((best.set place path).map Path.text),
    WeightScale.add (concatenation best).weight (WeightScale.sub path.weight replaced.weight)⟩

/-- All paths that leave the best one in a single place, the lattices being numbered from `place`. -/
def substitutions (best : List (Path W)) (place : Nat) : List (Lattice W) → List (Path W)
  | [] => []
  | part :: rest =>
    (match part.paths with
      | [] => []
      | first :: others => others.map (substitution best place first)) ++
    substitutions best (place + 1) rest

/-- The best `n` of the joined paths of several lattices: the one made of the best paths, and those
that take another path in one place. -/
def combine (parts : List (Lattice W)) (n : Nat) : Lattice W :=
  let best := parts.filterMap fun part => part.paths.head?
  (ofPaths (concatenation best :: substitutions best 0 parts)).truncate n

end Lattice

namespace Whitelist

variable {W : Type} [WeightScale W]

/-- The answers for segments; none when a segment has no answer. -/
def answers? (grammar : Grammar W) (n : Nat) :
    List Segment → Except GrammarError (Option (List (Lattice W)))
  | [] => .ok (some [])
  | segment :: rest => do
    let lattice ← match segment with
      | .plain text => grammar text n
      | .listed replacement => .ok (.single (nameToken replacement) WeightScale.zero)
    if lattice.isEmpty then return none
    return (← answers? grammar n rest).map (lattice :: ·)

def isListed : Segment → Bool
  | .plain _ => false
  | .listed _ => true

def guard (list : Whitelist) (grammar : Grammar W) : Grammar W := fun input n => do
  let segments := list.segments input
  if segments.any isListed then
    match ← answers? grammar n segments with
    | some parts => return .combine parts (max n 1)
    | none => return .empty
  else grammar input n

end Whitelist

end SpokenForm
