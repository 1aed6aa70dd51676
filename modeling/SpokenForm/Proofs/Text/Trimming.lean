import Mathlib.Data.List.TakeWhile
import SpokenForm.Proofs.Text.Tidy

/-! What trimming drops, and what it leaves of a text: it drops the white space at the ends and nothing
else, so more white space around a text makes no difference. -/
namespace SpokenForm.Text

open Unicode

theorem Blank.nil : Blank [] := List.forall_mem_nil _

theorem Blank.reverse {gap : Text} (blank : Blank gap) : Blank gap.reverse := by
  intro c member
  exact blank c (List.mem_reverse.mp member)

theorem Blank.append {front back : Text} (blankFront : Blank front) (blankBack : Blank back) :
    Blank (front ++ back) :=
  List.forall_mem_append.mpr ⟨blankFront, blankBack⟩

theorem exists_trimStart (text : Text) : ∃ gap, Blank gap ∧ text = gap ++ trimStart text := by
  refine ⟨text.takeWhile isWhitespace, ?_, List.takeWhile_append_dropWhile.symm⟩
  intro c member
  exact List.mem_takeWhile_imp member

theorem exists_trimEnd (text : Text) : ∃ gap, Blank gap ∧ text = trimEnd text ++ gap := by
  obtain ⟨gap, blank, reversed⟩ := exists_trimStart text.reverse
  refine ⟨gap.reverse, blank.reverse, ?_⟩
  rw [trimEnd, ← List.reverse_append, ← reversed, List.reverse_reverse]

/-- What is left stands between two gaps. -/
theorem exists_trim (text : Text) : ∃ front back, Blank front ∧ Blank back ∧
    text = front ++ (trim text ++ back) := by
  obtain ⟨front, blankFront, whole⟩ := exists_trimStart text
  obtain ⟨back, blankBack, rest⟩ := exists_trimEnd (trimStart text)
  refine ⟨front, back, blankFront, blankBack, ?_⟩
  rw [trim, ← rest]
  exact whole

theorem head?_trimStart (text : Text) : ∀ c ∈ (trimStart text).head?, isWhitespace c = false := by
  intro c first
  have stopped := List.head?_dropWhile_not isWhitespace text
  rw [trimStart] at first
  rw [Option.mem_def.mp first] at stopped
  exact stopped

theorem head?_trim (text : Text) : ∀ c ∈ (trim text).head?, isWhitespace c = false := by
  obtain ⟨back, -, rest⟩ := exists_trimEnd (trimStart text)
  intro c first
  apply head?_trimStart text
  rw [rest]
  exact List.mem_head?_append_of_mem_head? first

theorem getLast?_trim (text : Text) : ∀ c ∈ (trim text).getLast?, isWhitespace c = false := by
  rw [trim, trimEnd, List.getLast?_reverse]
  exact head?_trimStart _

theorem not_blank_trim {text : Text} (nonempty : trim text ≠ []) : ¬ Blank (trim text) := by
  intro blank
  obtain ⟨c, rest, found⟩ := List.exists_cons_of_ne_nil nonempty
  have solid : isWhitespace c = false := head?_trim text c (by simp [found])
  have space : isWhitespace c = true := blank c (by simp [found])
  exact Bool.false_ne_true (solid.symm.trans space)

/-- White space around a text is dropped with its own. -/
theorem trim_around {front back : Text} (blankFront : Blank front) (blankBack : Blank back)
    (text : Text) : trim (front ++ (text ++ back)) = trim text := by
  obtain ⟨before, behind, blankBefore, blankBehind, whole⟩ := exists_trim text
  have regrouped : front ++ (text ++ back) = (front ++ before) ++ (trim text ++ (behind ++ back)) := by
    conv_lhs => rw [whole]
    simp only [List.append_assoc]
  rw [regrouped]
  exact trim_between (blankFront.append blankBefore) (blankBehind.append blankBack) (head?_trim text)
    (getLast?_trim text)

theorem trim_cons_of_blank {c : Char} (space : isWhitespace c = true) (text : Text) :
    trim (c :: text) = trim text := by
  have blank : Blank [c] := List.forall_mem_singleton.mpr space
  simpa using trim_around blank Blank.nil text

theorem unspaced_of_blank {gap : Text} (blank : Blank gap) : unspaced gap = [] := by
  apply List.filter_eq_nil_iff.mpr
  intro c member
  simp [blank c member]

theorem unspaced_trim (text : Text) : unspaced (trim text) = unspaced text := by
  obtain ⟨front, back, blankFront, blankBack, whole⟩ := exists_trim text
  conv_rhs => rw [whole]
  simp [unspaced_of_blank blankFront, unspaced_of_blank blankBack]

end SpokenForm.Text
