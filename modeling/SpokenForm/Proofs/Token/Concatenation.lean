import Mathlib.Data.List.Forall2
import SpokenForm.Proofs.Token.RoundTrip

/-! Tagged texts one after the other. A space ends whatever lexeme stands in front of it, so texts that
are joined by spaces are read as they are read alone. -/
namespace SpokenForm

open Unicode TaggedText

theorem Lexeme.EndsBefore.append_blank {lexeme : Lexeme} {rest : Text} (ends : lexeme.EndsBefore rest)
    {c : Char} (space : isWhitespace c = true) (more : Text) :
    lexeme.EndsBefore (rest ++ c :: more) := by
  rintro value same ⟨next, later, split, letter⟩
  cases rest with
  | nil =>
    obtain ⟨rfl, -⟩ := List.cons.inj split
    simp [not_alphanumeric_of_whitespace space] at letter
  | cons head tail =>
    obtain ⟨rfl, -⟩ := List.cons.inj split
    exact ends value same ⟨head, tail, rfl, letter⟩

theorem LaysOut.behind_blank {lexemes : List Lexeme} {gap text : Text} (isBlank : Blank gap)
    (laidOut : LaysOut lexemes text) : LaysOut lexemes (gap ++ text) := by
  cases laidOut with
  | blank alsoBlank => exact .blank (List.forall_mem_append.mpr ⟨isBlank, alsoBlank⟩)
  | lexeme front alsoBlank wellFormed ends later =>
    rw [← List.append_assoc]
    exact .lexeme (gap ++ front) (List.forall_mem_append.mpr ⟨isBlank, alsoBlank⟩) wellFormed ends
      later

theorem LaysOut.append_blank {first second : List Lexeme} {text more : Text} {c : Char}
    (laidOut : LaysOut first text) (space : isWhitespace c = true) (later : LaysOut second more) :
    LaysOut (first ++ second) (text ++ c :: more) := by
  induction laidOut with
  | @blank gap isBlank =>
    have longer : Blank (gap ++ [c]) := by
      simpa [Blank, or_imp, forall_and, space] using isBlank
    simpa using later.behind_blank longer
  | @lexeme gap rest first lexemes isBlank wellFormed ends _ ih =>
    simpa using LaysOut.lexeme gap isBlank wellFormed (ends.append_blank space more) ih

namespace TaggedText

theorem Layout.append_space {first second : List Token} {text more : Text}
    (layout : Layout first text) (later : Layout second more) :
    Layout (first ++ second) (text ++ ' ' :: more) := by
  refine ⟨List.forall_mem_append.mpr ⟨layout.blocks, later.blocks⟩, ?_⟩
  rw [List.flatten_append, List.flatMap_append]
  exact layout.laidOut.append_blank Text.isWhitespace_space later.laidOut

theorem layout_joinSpaced {readings : List (List Token)} {pieces : List Text}
    (each : List.Forall₂ Layout readings pieces) :
    Layout readings.flatten (Text.joinSpaced pieces) := by
  induction each with
  | nil => exact ⟨by simp, .blank (by simp [Blank, Text.joinSpaced, Text.joinBy])⟩
  | @cons tokens piece readings pieces layout others ih =>
    cases others with
    | nil => simpa [Text.joinSpaced, Text.joinBy] using layout
    | cons _ _ => simpa [Text.joinSpaced, Text.joinBy] using layout.append_space ih

/-- Texts joined by spaces are read to the tokens of the one, then of the next, and so on. -/
theorem parse_joinSpaced {pieces : List Text} {readings : List (List Token)}
    (each : List.Forall₂ (fun piece tokens => parse piece = .ok tokens) pieces readings) :
    parse (Text.joinSpaced pieces) = .ok readings.flatten := by
  have layouts : List.Forall₂ Layout readings pieces :=
    (each.imp fun _ _ parsed => layout_of_parse parsed).flip
  exact parse_of_layout (layout_joinSpaced layouts)

end TaggedText

end SpokenForm
