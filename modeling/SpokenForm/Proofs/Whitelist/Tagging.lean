import SpokenForm.Proofs.ExactWeight
import SpokenForm.Proofs.Token.Concatenation
import SpokenForm.Whitelist

/-! Tokens in front of a guarded grammar. Replacements are escaped so that quotes read them back, and
the paths of a guarded grammar join one path of each segment, so they read as the segments do. -/
namespace SpokenForm

open TaggedText

/-! Escaped texts inside quotes. -/

/-- Puts the character of each pair of a backslash and a character in the place of the pair. -/
def unescape : Text → Text
  | '\\' :: c :: rest => c :: unescape rest
  | c :: rest => c :: unescape rest
  | [] => []

theorem unescape_plain {c : Char} (plain : c ≠ '\\') (rest : Text) :
    unescape (c :: rest) = c :: unescape rest := by
  rw [unescape.eq_def]
  split <;> simp_all

theorem unescape_escape (text : Text) : unescape (text.flatMap escapeChar) = text := by
  induction text with
  | nil => rfl
  | cons c text ih =>
    by_cases special : c = '\\' ∨ c = '"'
    · simp [escapeChar, special, unescape, ih]
    · have plain : c ≠ '\\' := fun same => special (.inl same)
      simp [escapeChar, special, unescape_plain plain, ih]

theorem quotable_escape (text : Text) : Quotable (text.flatMap escapeChar) := by
  induction text with
  | nil => exact .nil
  | cons c text ih =>
    by_cases special : c = '\\' ∨ c = '"'
    · simpa [escapeChar, special] using Quotable.pair ih
    · obtain ⟨noBackslash, noQuote⟩ := not_or.mp special
      simpa [escapeChar, special] using Quotable.plain noQuote noBackslash ih

/-- A block that names a text, as it stands inside quotes. -/
def Token.naming (quoted : Text) : Token :=
  [.nested "tokens".toList [.leaf "name".toList quoted]]

theorem Field.serialize_block (key name quoted : Text) :
    Field.serialize (.nested key [.leaf name quoted]) =
      key ++ (" \x7b ".toList ++ (name ++ (": \"".toList ++ (quoted ++ '"' :: " \x7d".toList)))) := by
  simp [Field.serialize, Field.serializeEach, Text.joinSpaced, Text.joinBy]

theorem nameToken_eq (text : Text) :
    nameToken text = Token.serializeAll [Token.naming (text.flatMap escapeChar)] := by
  have front : "tokens \x7b name: \"".toList =
      "tokens".toList ++ (" \x7b ".toList ++ ("name".toList ++ ": \"".toList)) := by simp
  have back : "\" \x7d".toList = '"' :: " \x7d".toList := rfl
  have block : Token.serializeAll [Token.naming (text.flatMap escapeChar)] = Field.serialize
      (.nested "tokens".toList [.leaf "name".toList (text.flatMap escapeChar)]) := rfl
  rw [block, Field.serialize_block]
  unfold nameToken
  rw [front, back]
  repeat rw [List.append_assoc]

/-- The token for a replacement is read as one block, whatever the replacement holds. -/
theorem parse_nameToken (text : Text) :
    parse (nameToken text) = .ok [Token.naming (text.flatMap escapeChar)] := by
  rw [nameToken_eq]
  apply parse_of_layout
  apply layout_serializeAll
  · intro token member
    obtain rfl := List.mem_singleton.mp member
    exact ⟨_, _, rfl⟩
  · have block : IsName "tokens".toList := ⟨by decide, List.all_eq_true.mp (by decide)⟩
    have name : IsName "name".toList := ⟨by decide, List.all_eq_true.mp (by decide)⟩
    simpa [Token.naming, Field.lexemes, Field.lexemesEach, Lexeme.WellFormed] using
      ⟨block, name, quotable_escape text⟩

/-! Joined paths. -/

theorem forall₂_set {α β : Type} {R : α → β → Prop} {left : List α} {right : List β}
    (related : List.Forall₂ R left right) {place : Nat} {a : α} {b : β}
    (found : right[place]? = some b) (here : R a b) : List.Forall₂ R (left.set place a) right := by
  induction related generalizing place with
  | nil => exact .nil
  | cons head tail ih =>
    cases place with
    | zero =>
      obtain rfl := Option.some.inj found
      exact .cons here tail
    | succ place => exact .cons head (ih found)

namespace Lattice

variable {W : Type} [WeightScale W]

/-- One path of each lattice, and a path with the texts of these joined. -/
def Joins (parts : List (Lattice W)) (path : Path W) : Prop :=
  ∃ chosen : List (Path W), List.Forall₂ (fun one part => one ∈ part.paths) chosen parts ∧
    path.text = Text.joinSpaced (chosen.map Path.text)

theorem joins_concatenation {parts : List (Lattice W)} {best : List (Path W)}
    (each : List.Forall₂ (fun one part => one ∈ part.paths) best parts) :
    Joins parts (concatenation best) := ⟨best, each, rfl⟩

theorem joins_substitutions {parts rest : List (Lattice W)} {best : List (Path W)}
    (each : List.Forall₂ (fun one part => one ∈ part.paths) best parts) {place : Nat}
    (behind : parts.drop place = rest) :
    ∀ path ∈ substitutions best place rest, Joins parts path := by
  induction rest generalizing place with
  | nil => simp [substitutions]
  | cons part rest ih =>
    have found : parts[place]? = some part := by
      rw [← List.head?_drop, behind]
      rfl
    have later : parts.drop (place + 1) = rest := by
      rw [← List.drop_drop, behind]
      rfl
    intro path member
    rw [substitutions, List.mem_append] at member
    rcases member with here | further
    · cases paths : part.paths with
      | nil => simp [paths] at here
      | cons first others =>
        simp only [paths, List.mem_map] at here
        obtain ⟨other, among, rfl⟩ := here
        have listed : other ∈ part.paths := by simp [paths, among]
        exact ⟨best.set place other, forall₂_set each found listed, rfl⟩
    · exact ih later path further

omit [WeightScale W] in
theorem forall₂_bestPaths {parts : List (Lattice W)} (answered : ∀ part ∈ parts, part.paths ≠ []) :
    List.Forall₂ (fun one part => one ∈ part.paths)
      (parts.filterMap fun part => part.paths.head?) parts := by
  induction parts with
  | nil => exact .nil
  | cons part parts ih =>
    obtain ⟨nonempty, others⟩ := List.forall_mem_cons.mp answered
    obtain ⟨first, rest, same⟩ := List.exists_cons_of_ne_nil nonempty
    have best : (part :: parts).filterMap (fun part => part.paths.head?) =
        first :: parts.filterMap fun part => part.paths.head? := by simp [same]
    rw [best]
    exact .cons (by simp [same]) (ih others)

/-- Every joined path takes one path of each lattice, in order. -/
theorem joins_of_mem_combine {parts : List (Lattice W)}
    (answered : ∀ part ∈ parts, part.paths ≠ []) {n : Nat} {path : Path W}
    (member : path ∈ (combine parts n).paths) : Joins parts path := by
  have each := forall₂_bestPaths answered
  have ranked := List.mem_of_mem_take member
  simp only [ofPaths, List.mem_mergeSort, List.mem_cons] at ranked
  rcases ranked with rfl | substituted
  · exact joins_concatenation each
  · exact joins_substitutions each rfl path substituted

end Lattice

/-! Guarded grammars. -/

namespace Whitelist

variable {W : Type} [WeightScale W]

def answer (grammar : Grammar W) (n : Nat) : Segment → Except GrammarError (Lattice W)
  | .plain text => grammar text n
  | .listed replacement => .ok (.single (nameToken replacement) WeightScale.zero)

theorem answers?_cons (grammar : Grammar W) (n : Nat) (segment : Segment) (rest : List Segment) :
    answers? grammar n (segment :: rest) = do
      let part ← answer grammar n segment
      if part.isEmpty then return none
      return (← answers? grammar n rest).map (part :: ·) := by
  cases segment <;> rfl

theorem answers?_eq_some {grammar : Grammar W} {n : Nat} {segments : List Segment}
    {parts : List (Lattice W)} (success : answers? grammar n segments = .ok (some parts)) :
    List.Forall₂ (fun part segment => answer grammar n segment = .ok part) parts segments ∧
      ∀ part ∈ parts, part.paths ≠ [] := by
  induction segments generalizing parts with
  | nil =>
    obtain rfl := Option.some.inj (Except.ok.inj success)
    exact ⟨.nil, by simp⟩
  | cons segment rest ih =>
    rw [answers?_cons] at success
    cases here : answer grammar n segment with
    | error fault => simp [here, bind, Except.bind] at success
    | ok part =>
      cases empty : part.isEmpty with
      | true => simp [here, empty, bind, Except.bind, pure, Except.pure] at success
      | false =>
        cases later : answers? grammar n rest with
        | error fault => simp [here, empty, later, bind, Except.bind] at success
        | ok found =>
          cases found with
          | none => simp [here, empty, later, bind, Except.bind, pure, Except.pure] at success
          | some others =>
            obtain ⟨related, nonempty⟩ := ih later
            obtain rfl : part :: others = parts := by
              simpa [here, empty, later, bind, Except.bind, pure, Except.pure] using success
            have first : part.paths ≠ [] := by simpa [Lattice.isEmpty] using empty
            exact ⟨.cons here related, List.forall_mem_cons.mpr ⟨first, nonempty⟩⟩

/-- A guarded grammar that finds a listed phrase answers with joined paths of the segments. -/
theorem joins_of_guard {list : Whitelist} {grammar : Grammar W} {input : Text} {n : Nat}
    {lattice : Lattice W} (answered : list.guard grammar input n = .ok lattice)
    (listed : ∃ replacement, Segment.listed replacement ∈ list.segments input) {path : Path W}
    (member : path ∈ lattice.paths) :
    ∃ parts, List.Forall₂ (fun part segment => answer grammar n segment = .ok part) parts
      (list.segments input) ∧ Lattice.Joins parts path := by
  have finds : (list.segments input).any isListed = true := by
    obtain ⟨replacement, among⟩ := listed
    exact List.any_eq_true.mpr ⟨_, among, rfl⟩
  simp only [guard, finds, if_true] at answered
  cases success : answers? grammar n (list.segments input) with
  | error fault => simp [success, bind, Except.bind] at answered
  | ok found =>
    cases found with
    | none =>
      obtain rfl : Lattice.empty = lattice := by
        simpa [success, bind, Except.bind, pure, Except.pure] using answered
      simp [Lattice.empty] at member
    | some parts =>
      obtain rfl : Lattice.combine parts (max n 1) = lattice := by
        simpa [success, bind, Except.bind, pure, Except.pure] using answered
      obtain ⟨related, nonempty⟩ := answers?_eq_some success
      exact ⟨parts, related, Lattice.joins_of_mem_combine nonempty member⟩

/-- What the tokens of a segment may be: those of one path that the grammar has for a plain segment,
and for a listed one a single block that names its replacement, escaped. -/
def Reads (grammar : Grammar W) (n : Nat) (tokens : List Token) : Segment → Prop
  | .plain text => ∃ lattice path, grammar text n = .ok lattice ∧ path ∈ lattice.paths ∧
      TaggedText.parse path.text = .ok tokens
  | .listed replacement => ∃ quoted, tokens = [Token.naming quoted] ∧ unescape quoted = replacement

/-- Every path of the grammar spells tokens. -/
def Tags (grammar : Grammar W) : Prop :=
  ∀ text n lattice, grammar text n = .ok lattice → ∀ path ∈ lattice.paths,
    ∃ tokens, TaggedText.parse path.text = .ok tokens

theorem exists_reads {grammar : Grammar W} (tags : Tags grammar) {n : Nat} {segment : Segment}
    {part : Lattice W} (answered : answer grammar n segment = .ok part) {path : Path W}
    (member : path ∈ part.paths) :
    ∃ tokens, Reads grammar n tokens segment ∧ TaggedText.parse path.text = .ok tokens := by
  cases segment with
  | plain text =>
    obtain ⟨tokens, parsed⟩ := tags text n part answered path member
    exact ⟨tokens, ⟨part, path, answered, member, parsed⟩, parsed⟩
  | listed replacement =>
    obtain rfl := Except.ok.inj answered
    obtain rfl := List.mem_singleton.mp member
    exact ⟨_, ⟨_, rfl, unescape_escape replacement⟩, parse_nameToken replacement⟩

theorem exists_readings {grammar : Grammar W} (tags : Tags grammar) {n : Nat}
    {segments : List Segment} {parts : List (Lattice W)} {chosen : List (Path W)}
    (answered : List.Forall₂ (fun part segment => answer grammar n segment = .ok part) parts segments)
    (taken : List.Forall₂ (fun one part => one ∈ part.paths) chosen parts) :
    ∃ readings, List.Forall₂ (Reads grammar n) readings segments ∧
      List.Forall₂ (fun piece tokens => TaggedText.parse piece = .ok tokens) (chosen.map Path.text) readings := by
  induction taken generalizing segments with
  | nil =>
    obtain rfl := List.forall₂_nil_left_iff.mp answered
    exact ⟨[], .nil, .nil⟩
  | cons member _ ih =>
    obtain ⟨segment, others, here, later, rfl⟩ := List.forall₂_cons_left_iff.mp answered
    obtain ⟨tokens, reads, parsed⟩ := exists_reads tags here member
    obtain ⟨readings, related, spelled⟩ := ih later
    exact ⟨tokens :: readings, .cons reads related, .cons parsed spelled⟩

/-- In front of a grammar whose paths all spell tokens, a whitelist that finds a phrase answers only
with texts that spell tokens: those of one path for each plain segment, and one name for each listed
phrase, in the order of the segments. -/
theorem guarded_path_spells_segments (list : Whitelist) {grammar : Grammar W} (tags : Tags grammar)
    {input : Text} (listed : ∃ replacement, Segment.listed replacement ∈ list.segments input)
    {n : Nat} {lattice : Lattice W} (answered : list.guard grammar input n = .ok lattice)
    {path : Path W} (member : path ∈ lattice.paths) :
    ∃ readings, List.Forall₂ (Reads grammar n) readings (list.segments input) ∧
      TaggedText.parse path.text = .ok readings.flatten := by
  obtain ⟨parts, related, chosen, taken, joined⟩ := joins_of_guard answered listed member
  obtain ⟨readings, reads, spelled⟩ := exists_readings tags related taken
  refine ⟨readings, reads, ?_⟩
  rw [joined]
  exact parse_joinSpaced spelled

/-- A replacement that could end a quote and a block. -/
def kilometres : Text := "\"kilo\\metres\": \x7d".toList

def units : Whitelist := empty.insert "km".toList kilometres

/-- A distance, and how it is tagged. -/
def distance : Text := "2 km".toList

def taggedDistance : Text :=
  "tokens \x7b name: \"2\" \x7d tokens \x7b name: \"\\\"kilo\\\\metres\\\": \x7d\" \x7d".toList

/-- Names whatever it is asked for. -/
def namesAll : Grammar ℚ := fun input _ => .ok (.single (nameToken input) 0)

theorem segments_distance :
    units.segments distance = [.plain ['2'], .listed kilometres] := by decide

theorem guard_distance : units.guard namesAll distance 1 = .ok (.single taggedDistance 0) := by
  have texts : nameToken ['2'] ++ ' ' :: nameToken kilometres = taggedDistance := by decide
  have parts : answers? namesAll 1 [.plain ['2'], .listed kilometres] =
      .ok (some [.single (nameToken ['2']) 0, .single (nameToken kilometres) 0]) := rfl
  simp only [guard, segments_distance, parts, List.any_cons, isListed, Bool.false_or, Bool.true_or,
    if_true, bind, Except.bind, pure, Except.pure]
  simp [Lattice.combine, Lattice.concatenation, Lattice.substitutions, Lattice.ofPaths,
    Lattice.truncate, Lattice.single, Text.joinSpaced_cons, texts]

theorem guarded_path_spells_segments_distance :
    (∃ replacement, Segment.listed replacement ∈ units.segments distance) ∧
    units.guard namesAll distance 1 = .ok (.single taggedDistance 0) ∧
    ∃ readings, List.Forall₂ (Reads namesAll 1) readings (units.segments distance) ∧
      TaggedText.parse taggedDistance = .ok readings.flatten := by
  have listed : ∃ replacement, Segment.listed replacement ∈ units.segments distance := by
    rw [segments_distance]
    exact ⟨_, .tail _ (.head _)⟩
  have tags : Tags namesAll := by
    intro text n lattice answered path member
    obtain rfl := Except.ok.inj answered
    obtain rfl := List.mem_singleton.mp member
    exact ⟨_, parse_nameToken text⟩
  exact ⟨listed, guard_distance, guarded_path_spells_segments units tags listed guard_distance
    (List.mem_singleton.mpr rfl)⟩

end Whitelist

end SpokenForm
