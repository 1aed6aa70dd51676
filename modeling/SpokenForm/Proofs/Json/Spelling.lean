import Mathlib.Data.List.TakeDrop
import SpokenForm.Json

/-! Spelled numbers. A number that is written part by part is read as these parts. -/
namespace SpokenForm.Json

/-- Digits, at least one. -/
structure IsDigits (text : Text) : Prop where
  nonempty : text ≠ []
  digits : ∀ c ∈ text, c.isDigit = true

/-- The parts of a number are such as the grammar has them. -/
structure NumberSpelling.WellFormed (spelling : NumberSpelling) : Prop where
  whole : IsDigits spelling.whole
  leading : spelling.whole.head? = some '0' → spelling.whole.length = 1
  fraction : ∀ c ∈ spelling.fraction, c.isDigit = true
  exponent : ∀ parts ∈ spelling.exponent?, IsDigits parts.2

def signText (negative : Bool) : Text := if negative then ['-'] else []

/-- A point with digits behind it, if there are any. -/
def fractionText (fraction : Text) : Text := if fraction.isEmpty then [] else '.' :: fraction

/-- An exponent with its sign, if there is one. -/
def exponentText : Option (Bool × Text) → Text
  | none => []
  | some (negative, digits) => 'e' :: (if negative then '-' else '+') :: digits

def NumberSpelling.text (spelling : NumberSpelling) : Text :=
  signText spelling.negative ++ spelling.whole ++ fractionText spelling.fraction ++
    exponentText spelling.exponent?

/-- Nothing follows, or something that is no digit. -/
def EndsDigits (rest : Text) : Prop := ∀ c ∈ rest.head?, c.isDigit = false

theorem span_isDigit {digits rest : Text} (each : ∀ c ∈ digits, c.isDigit = true) (ends : EndsDigits rest) :
    (digits ++ rest).span Char.isDigit = (digits, rest) := by
  rw [List.span_eq_takeWhile_dropWhile, List.takeWhile_append_of_pos each,
    List.dropWhile_append_of_pos each]
  cases rest with
  | nil => simp
  | cons c rest =>
    have other : c.isDigit = false := ends c rfl
    simp [other]

theorem endsDigits_exponentText (exponent? : Option (Bool × Text)) : EndsDigits (exponentText exponent?) := by
  intro c first
  cases exponent? with
  | none => cases first
  | some parts =>
    obtain rfl := Option.some.inj first
    rfl

theorem optionalExponent?_text {exponent? : Option (Bool × Text)}
    (digits : ∀ parts ∈ exponent?, IsDigits parts.2) :
    optionalExponent? (exponentText exponent?) = some exponent? := by
  cases exponent? with
  | none => rfl
  | some parts =>
    obtain ⟨negative, spelled⟩ := parts
    obtain ⟨nonempty, each⟩ := digits _ rfl
    have passes : (!spelled.isEmpty && spelled.all Char.isDigit) = true := by
      simpa [nonempty] using each
    cases negative <;> simp [exponentText, optionalExponent?, exponentSpelling?, passes]

variable {spelling : NumberSpelling}

theorem unsignedSpelling?_text (wellFormed : spelling.WellFormed) :
    unsignedSpelling? spelling.negative (spelling.whole ++ (fractionText spelling.fraction ++
      exponentText spelling.exponent?)) = some spelling := by
  have last := optionalExponent?_text wellFormed.exponent
  have ends := endsDigits_exponentText spelling.exponent?
  have digits := wellFormed.whole.digits
  have allowed : (spelling.whole.isEmpty ||
      (spelling.whole.head? = some '0' && spelling.whole.length ≠ 1)) = false := by
    simpa [wellFormed.whole.nonempty] using wellFormed.leading
  unfold unsignedSpelling?
  by_cases none : spelling.fraction = []
  · rw [fractionText, none, List.isEmpty_nil, if_pos rfl, List.nil_append, span_isDigit digits ends]
    simp only [allowed, Bool.false_eq_true, if_false]
    split
    · rename_i behind point
      have noPoint : (exponentText spelling.exponent?).head? ≠ some '.' := by
        cases spelling.exponent? <;> simp [exponentText]
      exact absurd (congrArg List.head? point) noPoint
    · rw [last, ← none]
      rfl
  · have point : EndsDigits ('.' :: (spelling.fraction ++ exponentText spelling.exponent?)) := by
      intro c first
      obtain rfl := Option.some.inj first
      rfl
    rw [fractionText, List.isEmpty_eq_false_iff.mpr none, if_neg Bool.false_ne_true, List.cons_append,
      span_isDigit digits point]
    simp only [allowed, Bool.false_eq_true, if_false, span_isDigit wellFormed.fraction ends,
      List.isEmpty_eq_false_iff.mpr none, last]
    rfl

/-- What is written is read. -/
theorem numberSpelling?_text (wellFormed : spelling.WellFormed) :
    numberSpelling? spelling.text = some spelling := by
  have unsigned := unsignedSpelling?_text wellFormed
  rw [NumberSpelling.text, List.append_assoc, List.append_assoc]
  cases sign : spelling.negative with
  | true =>
    rw [sign] at unsigned
    exact unsigned
  | false =>
    rw [sign] at unsigned
    obtain ⟨nonempty, digits⟩ := wellFormed.whole
    obtain ⟨c, rest, same⟩ := List.exists_cons_of_ne_nil nonempty
    have isDigit : c.isDigit = true := digits c (by simp [same])
    rw [same] at unsigned ⊢
    show numberSpelling? (c :: (rest ++ _)) = _
    unfold numberSpelling?
    split
    · rename_i minus
      cases minus
      cases isDigit
    · exact unsigned

end SpokenForm.Json
