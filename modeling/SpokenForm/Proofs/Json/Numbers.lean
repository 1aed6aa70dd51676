import Mathlib.Tactic.SplitIfs
import SpokenForm.Proofs.Decimal.Shortest
import SpokenForm.Proofs.Json.Spelling

/-! Numbers as they are printed. Integers are printed exactly, and floating-point numbers so that they
are what the printed number is rounded to. -/
namespace SpokenForm.Json

open Decimal

def exponentValue : Option (Bool × Text) → Int
  | none => 0
  | some (negative, digits) => if negative then -(valueOf digits : Int) else valueOf digits

/-- The number that is spelled, without its sign. -/
def NumberSpelling.size (spelling : NumberSpelling) : ℚ :=
  gridNumber (valueOf (spelling.whole ++ spelling.fraction))
    (exponentValue spelling.exponent? - spelling.fraction.length)

theorem size_lt_size {spelling other : NumberSpelling}
    (less : valueOf (spelling.whole ++ spelling.fraction) < valueOf (other.whole ++ other.fraction))
    (same : exponentValue spelling.exponent? - spelling.fraction.length =
      exponentValue other.exponent? - other.fraction.length) : spelling.size < other.size := by
  rw [NumberSpelling.size, NumberSpelling.size, same]
  exact mul_lt_mul_of_pos_right (Nat.cast_lt.mpr less) (zpow_pos (by norm_num) _)

def NumberSpelling.IsWhole (spelling : NumberSpelling) : Prop :=
  spelling.fraction = [] ∧ spelling.exponent? = none

/-- An integer has just the digits and the sign that are spelled. -/
structure NumberSpelling.IsInteger (spelling : NumberSpelling) (value : Int) : Prop where
  isWhole : spelling.IsWhole
  digits : value.natAbs = valueOf spelling.whole
  sign : spelling.negative = true ↔ value < 0

/-- A number is spelled: an integer by its digits, and a floating-point number by one with fraction or
exponent that is rounded to it. -/
inductive Denotes (spelling : NumberSpelling) : JsonValue → Prop where
  | integer {value : Int} (exact : spelling.IsInteger value) : Denotes spelling (.integer value)
  | float {value : Float} (parts : ¬ spelling.IsWhole) (sign : spelling.negative = isNegative value)
    (rounded : RoundsTo spelling.size (sizeBits value)) : Denotes spelling (.float value)

/-! Digits. -/

variable {number : Nat}

theorem valueOf_append (digits more : Text) :
    valueOf (digits ++ more) = 10 ^ more.length * valueOf digits + valueOf more := by
  show Nat.ofDigitChars 10 (digits ++ more) 0 = _
  rw [Nat.ofDigitChars_append, Nat.ofDigitChars_eq_ofDigitChars_zero]
  rfl

theorem valueOf_zeros (count : Nat) : valueOf (zeros count) = 0 := by
  show Nat.ofDigitChars 10 (List.replicate count '0') 0 = 0
  rw [Nat.ofDigitChars_replicate_zero, Nat.mul_zero]

theorem valueOf_toDigits (number : Nat) : valueOf (Nat.toDigits 10 number) = number :=
  Nat.ofDigitChars_ten_toDigits

theorem isDigits_toDigits (number : Nat) : IsDigits (Nat.toDigits 10 number) :=
  ⟨Nat.toDigits_ne_nil, fun _ => Nat.isDigit_of_mem_toDigits (by omega) le_rfl⟩

theorem isDigit_of_mem_zeros {count : Nat} : ∀ c ∈ zeros count, c.isDigit = true := by
  intro c member
  obtain rfl := List.eq_of_mem_replicate member
  rfl

theorem head?_toDigits (positive : 0 < number) : (Nat.toDigits 10 number).head? ≠ some '0' := by
  induction number using Nat.strong_induction_on with
  | _ number ih =>
    rcases Nat.lt_or_ge number 10 with small | large
    · simpa [Nat.toDigits_of_lt_base small, Nat.digitChar_eq_zero] using positive.ne'
    · have first := ih (number / 10) (by omega) (by omega)
      obtain ⟨c, rest, same⟩ := List.exists_cons_of_ne_nil (@Nat.toDigits_ne_nil (number / 10) 10)
      rw [Nat.toDigits_of_base_le (by omega) large, same]
      rw [same] at first
      exact first

theorem leading_toDigits (number : Nat) :
    (Nat.toDigits 10 number).head? = some '0' → (Nat.toDigits 10 number).length = 1 := by
  rcases Nat.eq_zero_or_pos number with rfl | positive
  · intro _
    rfl
  · intro zero
    exact absurd zero (head?_toDigits positive)

/-! Integers. -/

def integerSpelling (value : Int) : NumberSpelling :=
  ⟨value < 0, Nat.toDigits 10 value.natAbs, [], none⟩

theorem wellFormed_integerSpelling (value : Int) : (integerSpelling value).WellFormed where
  whole := isDigits_toDigits _
  leading := leading_toDigits _
  fraction := by simp [integerSpelling]
  exponent := by simp [integerSpelling]

theorem text_integerSpelling (value : Int) : (integerSpelling value).text = integerText value := by
  cases value with
  | ofNat size =>
    have notNegative : ¬ (size : Int) < 0 := by omega
    simp [NumberSpelling.text, integerSpelling, signText, fractionText, exponentText, integerText,
      notNegative, Int.toString_eq_repr, Int.repr]
  | negSucc size =>
    have negative : Int.negSucc size < 0 := Int.negSucc_lt_zero size
    simp [NumberSpelling.text, integerSpelling, signText, fractionText, exponentText, integerText,
      negative, Int.toString_eq_repr, Int.repr]

theorem denotes_integerSpelling (value : Int) : Denotes (integerSpelling value) (.integer value) :=
  .integer ⟨⟨rfl, rfl⟩, (valueOf_toDigits _).symm, by simp [integerSpelling]⟩

/-! Floating-point numbers. -/

/-- The spelling of digits with a point behind the first `point` of them. -/
def positionalSpelling (negative : Bool) (digits : Text) (point : Int) : NumberSpelling :=
  if point ≤ 0 then ⟨negative, ['0'], zeros (-point).toNat ++ digits, none⟩
  else if digits.length ≤ point.toNat then
    ⟨negative, digits ++ zeros (point.toNat - digits.length), ['0'], none⟩
  else ⟨negative, digits.take point.toNat, digits.drop point.toNat, none⟩

/-- The spelling of digits with a point behind the first, and an exponent. -/
def scientificSpelling (negative : Bool) (digits : Text) (exponent : Int) : NumberSpelling :=
  ⟨negative, digits.take 1, digits.drop 1, some (exponent < 0, Nat.toDigits 10 exponent.natAbs)⟩

section Notation

variable {negative : Bool} {digits : Text} {point exponent : Int}

theorem text_positionalSpelling (nonempty : digits ≠ []) :
    (positionalSpelling negative digits point).text = signText negative ++ positional digits point := by
  unfold positionalSpelling positional
  split_ifs with before whole
  · simp [NumberSpelling.text, fractionText, exponentText, nonempty]
  · simp [NumberSpelling.text, fractionText, exponentText]
  · have behind : digits.drop point.toNat ≠ [] := by
      rw [Ne, List.drop_eq_nil_iff]
      exact whole
    simp [NumberSpelling.text, fractionText, exponentText, behind]

theorem text_scientificSpelling (nonempty : digits ≠ []) :
    (scientificSpelling negative digits exponent).text =
      signText negative ++ scientific digits exponent := by
  obtain ⟨c, rest, rfl⟩ := List.exists_cons_of_ne_nil nonempty
  by_cases low : exponent < 0 <;>
    cases rest <;>
    simp [NumberSpelling.text, scientificSpelling, scientific, fractionText, exponentText, low]

theorem wellFormed_positionalSpelling (isDigits : IsDigits digits) (leading : digits.head? ≠ some '0') :
    (positionalSpelling negative digits point).WellFormed := by
  obtain ⟨c, rest, rfl⟩ := List.exists_cons_of_ne_nil isDigits.nonempty
  have noZero : c ≠ '0' := fun zero => leading (congrArg some zero)
  unfold positionalSpelling
  split_ifs with before whole
  · exact ⟨⟨by simp, by simp⟩, fun _ => rfl,
      List.forall_mem_append.mpr ⟨isDigit_of_mem_zeros, isDigits.digits⟩, by simp⟩
  · exact ⟨⟨by simp, List.forall_mem_append.mpr ⟨isDigits.digits, isDigit_of_mem_zeros⟩⟩,
      fun zero => absurd (Option.some.inj zero) noZero, by simp, by simp⟩
  · obtain ⟨count, same⟩ : ∃ count, point.toNat = count + 1 := ⟨point.toNat - 1, by omega⟩
    rw [same]
    exact ⟨⟨by simp, fun c member => isDigits.digits c (List.mem_of_mem_take member)⟩,
      fun zero => absurd (Option.some.inj zero) noZero,
      fun c member => isDigits.digits c (List.mem_of_mem_drop member), by simp⟩

theorem wellFormed_scientificSpelling (isDigits : IsDigits digits) :
    (scientificSpelling negative digits exponent).WellFormed := by
  obtain ⟨c, rest, rfl⟩ := List.exists_cons_of_ne_nil isDigits.nonempty
  obtain ⟨first, others⟩ := List.forall_mem_cons.mp isDigits.digits
  refine ⟨⟨by simp [scientificSpelling], by simpa [scientificSpelling] using first⟩, fun _ => rfl,
    others, ?_⟩
  intro parts found
  obtain rfl := Option.some.inj found
  exact isDigits_toDigits _

theorem gridNumber_zeros (decimal count : Nat) (power : Int) :
    gridNumber (10 ^ count * decimal) power = gridNumber decimal (power + count) := by
  rw [gridNumber, gridNumber, zpow_add₀ (by norm_num), zpow_natCast]
  push_cast
  ring

theorem size_positionalSpelling :
    (positionalSpelling negative digits point).size =
      gridNumber (valueOf digits) (point - digits.length) := by
  unfold positionalSpelling
  split_ifs with before whole
  · have value : valueOf (['0'] ++ (zeros (-point).toNat ++ digits)) = valueOf digits := by
      rw [valueOf_append, valueOf_append, valueOf_zeros]
      show 10 ^ _ * 0 + _ = _
      omega
    have places : (0 : Int) - (zeros (-point).toNat ++ digits).length = point - digits.length := by
      rw [List.length_append, zeros, List.length_replicate]
      omega
    rw [NumberSpelling.size, exponentValue, value, places]
  · have value : valueOf ((digits ++ zeros (point.toNat - digits.length)) ++ ['0']) =
        10 ^ (point.toNat - digits.length + 1) * valueOf digits := by
      rw [valueOf_append, valueOf_append, valueOf_zeros, zeros, List.length_replicate]
      show 10 * (_ + 0) + 0 = _
      ring
    rw [NumberSpelling.size, exponentValue, value, gridNumber_zeros]
    congr 1
    simp
    omega
  · rw [NumberSpelling.size, exponentValue, List.take_append_drop, List.length_drop]
    congr 1
    omega

theorem exponentValue_toDigits (exponent : Int) :
    exponentValue (some (exponent < 0, Nat.toDigits 10 exponent.natAbs)) = exponent := by
  rw [exponentValue, valueOf_toDigits]
  split
  · rename_i low
    rw [decide_eq_true_eq] at low
    omega
  · rename_i high
    rw [decide_eq_true_eq] at high
    omega

theorem size_scientificSpelling (nonempty : digits ≠ []) :
    (scientificSpelling negative digits exponent).size =
      gridNumber (valueOf digits) (exponent + 1 - digits.length) := by
  have positive : 0 < digits.length := List.length_pos_iff.mpr nonempty
  simp only [NumberSpelling.size, scientificSpelling, List.take_append_drop, exponentValue_toDigits,
    List.length_drop]
  congr 1
  omega

variable {value : Float} {power : Int}

theorem denotes_positionalSpelling (nonempty : digits ≠ [])
    (rounded : RoundsTo (gridNumber (valueOf digits) power) (sizeBits value)) :
    Denotes (positionalSpelling (isNegative value) digits (power + digits.length - 1 + 1))
      (.float value) := by
  have point : power + digits.length - 1 + 1 = power + digits.length := by omega
  rw [point]
  refine .float (fun isWhole => ?_) ?_ ?_
  · have fraction := isWhole.1
    unfold positionalSpelling at fraction
    split_ifs at fraction with before whole
    · exact nonempty (List.append_eq_nil_iff.mp fraction).2
    · exact whole (List.drop_eq_nil_iff.mp fraction)
  · unfold positionalSpelling
    split_ifs <;> rfl
  · rw [size_positionalSpelling, add_sub_cancel_right]
    exact rounded

theorem denotes_scientificSpelling (nonempty : digits ≠ [])
    (rounded : RoundsTo (gridNumber (valueOf digits) power) (sizeBits value)) :
    Denotes (scientificSpelling (isNegative value) digits (power + digits.length - 1)) (.float value) := by
  refine .float (fun isWhole => Option.some_ne_none _ isWhole.2) rfl ?_
  rw [size_scientificSpelling nonempty, sub_add_cancel, add_sub_cancel_right]
  exact rounded

end Notation

variable {value : Float}

theorem size_of_zero (zero : (intervalOf value).value = 0) : Decimal.size (sizeBits value) = 0 := by
  have none : significand (sizeBits value) = 0 := by
    rw [intervalOf_value] at zero
    omega
  rw [Decimal.size, none, Nat.cast_zero, zero_mul]

theorem exists_zero_spelling (finite : isFinite value = true) (zero : (intervalOf value).value = 0) :
    ∃ spelling : NumberSpelling, spelling.WellFormed ∧ spelling.text = Decimal.text value ∧
      Denotes spelling (.float value) := by
  refine ⟨⟨isNegative value, ['0'], ['0'], none⟩,
    ⟨⟨by simp, by simp⟩, fun _ => rfl, by simp, by simp⟩, ?_, .float (by simp [NumberSpelling.IsWhole]) rfl ?_⟩
  · rw [Decimal.text, if_pos zero]
    simp [NumberSpelling.text, signText, fractionText, exponentText]
  · have nothing : (⟨isNegative value, ['0'], ['0'], none⟩ : NumberSpelling).size =
        Decimal.size (sizeBits value) := by
      rw [size_of_zero zero]
      exact zero_mul _
    rw [nothing]
    exact roundsTo_size (sizeBits_lt_infinity finite)

/-- A floating-point number is printed as a number that is rounded to it. -/
theorem exists_float_spelling (finite : isFinite value = true) : ∃ spelling : NumberSpelling,
    spelling.WellFormed ∧ spelling.text = Decimal.text value ∧ Denotes spelling (.float value) := by
  by_cases zero : (intervalOf value).value = 0
  · exact exists_zero_spelling finite zero
  · have rounded := roundsTo_shortest zero finite
    have isDigits := isDigits_toDigits (shortest value).1
    have leading := head?_toDigits (shortest_pos zero)
    have text : Decimal.text value = signText (isNegative value) ++
        (let digits := Nat.toDigits 10 (shortest value).1
          let exponent := (shortest value).2 + digits.length - 1
          if -5 ≤ exponent && exponent < 16 then positional digits (exponent + 1)
          else scientific digits exponent) := by
      rw [Decimal.text, if_neg zero]
      rfl
    rw [← valueOf_toDigits (shortest value).1] at rounded
    rw [text]
    simp only
    split
    · exact ⟨_, wellFormed_positionalSpelling isDigits leading,
        text_positionalSpelling isDigits.nonempty, denotes_positionalSpelling isDigits.nonempty rounded⟩
    · exact ⟨_, wellFormed_scientificSpelling isDigits,
        text_scientificSpelling isDigits.nonempty, denotes_scientificSpelling isDigits.nonempty rounded⟩

end SpokenForm.Json
