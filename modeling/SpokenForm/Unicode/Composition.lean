import SpokenForm.Unicode.Decomposition

/-! Canonical composition (NFC): decompose, order the combining marks, compose again. -/
namespace SpokenForm.Unicode

namespace Hangul

def firstLead : Nat := 0x1100
def firstVowel : Nat := 0x1161
/-- One before the first trailing consonant: place zero stands for none. -/
def noTail : Nat := 0x11A7
def firstSyllable : Nat := 0xAC00
def leadCount : Nat := 19
def vowelCount : Nat := 21
def tailCount : Nat := 28

/-- The letters of a syllable block. -/
def decompose? (code : Nat) : Option (List Nat) :=
  if firstSyllable ≤ code && code < firstSyllable + leadCount * vowelCount * tailCount then
    let place := code - firstSyllable
    let lead := firstLead + place / (vowelCount * tailCount)
    let vowel := firstVowel + place % (vowelCount * tailCount) / tailCount
    let tail := place % tailCount
    some (if tail = 0 then [lead, vowel] else [lead, vowel, noTail + tail])
  else none

/-- Lead and vowel make an open syllable, an open syllable and a tail a closed one. -/
def compose? (first second : Nat) : Option Nat :=
  if firstLead ≤ first && first < firstLead + leadCount
      && firstVowel ≤ second && second < firstVowel + vowelCount then
    some (firstSyllable
      + ((first - firstLead) * vowelCount + (second - firstVowel)) * tailCount)
  else if firstSyllable ≤ first && first < firstSyllable + leadCount * vowelCount * tailCount
      && (first - firstSyllable) % tailCount = 0
      && noTail < second && second < noTail + tailCount then
    some (first + (second - noTail))
  else none

end Hangul

/-- The canonical combining class; zero marks a character that starts a sequence. -/
def combiningClass (code : Nat) : Nat := find combiningClasses
where
  find : List (Nat × Nat × Nat) → Nat
    | [] => 0
    | (first, last, value) :: rest =>
      if code < first then 0 else if code ≤ last then value else find rest

/-- The two parts of a primary composite. -/
def parts? (code : Nat) : Option (Nat × Nat) :=
  composites.findSome? fun (second, pairs) =>
    pairs.findSome? fun (first, composite) => if composite = code then some (first, second) else none

/-- The character that a character merely stands for. -/
def substitute? (code : Nat) : Option Nat :=
  substitutes.findSome? fun (first, equivalents) =>
    if first ≤ code then equivalents[code - first]? else none

/-- Full canonical decomposition. Composites nest at most three deep, and everything below `U+00C0`
stands for itself. -/
def decompose (depth : Nat) (code : Nat) : List Nat :=
  if code < 0xC0 then [code] else
  match Hangul.decompose? code with
  | some letters => letters
  | none => match exclusions.lookup code with
    | some members => members
    | none => match substitute? code with
      | some equivalent => [equivalent]
      | none => match depth, parts? code with
        | depth + 1, some (first, second) => decompose depth first ++ [second]
        | _, _ => [code]

/-- Puts a combining mark behind all marks of its own or a lower class; a starter stays. -/
def insertMark (mark : Nat) : List Nat → List Nat
  | [] => [mark]
  | other :: rest =>
    if combiningClass mark < combiningClass other then other :: insertMark mark rest
    else mark :: other :: rest

/-- Orders every run of combining marks by class, marks of one class staying in their order.
The marks of the run come last to first. -/
def orderMarks (run : List Nat) : List Nat → List Nat
  | [] => run.reverse
  | code :: rest =>
    if combiningClass code = 0 then run.reverse ++ code :: orderMarks [] rest
    else orderMarks (insertMark code run) rest

/-- The primary composite of a starter and what follows it. -/
def compose? (first second : Nat) : Option Nat :=
  match Hangul.compose? first second with
  | some syllable => some syllable
  | none => if second < 0x300 then none else
    (composites.lookup second).bind fun pairs => pairs.lookup first

/-- Composes behind the starter `starter`; `kept` are the marks that stay behind it, last first. A
mark composes only when no mark of its own or a higher class, and no other starter, stands
between. -/
def composeFrom (starter : Nat) (kept : List Nat) : List Nat → List Nat
  | [] => starter :: kept.reverse
  | code :: rest =>
    let blocked := match kept with
      | [] => false
      | last :: _ => combiningClass code ≤ combiningClass last
    match if blocked then none else compose? starter code with
    | some composite => composeFrom composite kept rest
    | none =>
      if combiningClass code = 0 then starter :: kept.reverse ++ composeFrom code [] rest
      else composeFrom starter (code :: kept) rest

/-- Marks before the first starter stay as they are. -/
def composeAll : List Nat → List Nat
  | [] => []
  | code :: rest =>
    if combiningClass code = 0 then composeFrom code [] rest else code :: composeAll rest

def composed (text : List Char) : List Char :=
  (composeAll (orderMarks [] (text.flatMap fun c => decompose 3 c.toNat))).map Char.ofNat

end SpokenForm.Unicode
