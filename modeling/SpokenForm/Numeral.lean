import SpokenForm.Text

/-! Numbers in digits at the front of a text, each read with what follows it. -/
namespace SpokenForm.Numeral

def valueOf (digits : Text) : Nat := digits.foldl (fun value c => 10 * value + (c.toNat - 48)) 0

/-- The digits at the front of a text, and what follows them. -/
def digits (text : Text) : Text × Text := text.span Char.isDigit

/-- A sign at the front of a text: whether it is a minus, and what follows. -/
def sign : Text → Bool × Text
  | '-' :: rest => (true, rest)
  | '+' :: rest => (false, rest)
  | text => (false, text)

/-- The digits of a decimal number before and behind the point, not both empty. -/
def mantissa? (text : Text) : Option (Text × Text × Text) :=
  let (whole, rest) := digits text
  match rest with
  | '.' :: behind =>
    let (fraction, last) := digits behind
    if whole.isEmpty && fraction.isEmpty then none else some (whole, fraction, last)
  | _ => if whole.isEmpty then none else some (whole, [], rest)

/-- The letter of an exponent has no digits behind it. -/
inductive Fault where
  | emptyExponent
deriving DecidableEq, Repr

/-- The exponent of a decimal number, zero if it has none. -/
def exponent (text : Text) : Except Fault (Int × Text) :=
  match text with
  | [] => .ok (0, [])
  | c :: rest =>
    if c = 'e' ∨ c = 'E' then
      let (negative, behind) := sign rest
      let (spelled, last) := digits behind
      if spelled.isEmpty then .error .emptyExponent
      else .ok (if negative then -(valueOf spelled : Int) else valueOf spelled, last)
    else .ok (0, text)

/-- A decimal number: its sign, its digits as a whole number, and the power of ten that they are
counted in. -/
structure Decimal where
  negative : Bool
  digits : Nat
  power : Int
deriving DecidableEq, Repr

/-- The same number, or one that is too large, or too small, for any floating-point format as well:
the power stays within bounds that the number of digits sets. -/
def Decimal.bounded (number : Decimal) : Decimal :=
  let least : Int := -(400 + (Nat.toDigits 10 number.digits).length)
  { number with power := max least (min number.power 400) }

/-- A decimal number, if there is one. -/
def decimal? (text : Text) : Except Fault (Option (Decimal × Text)) :=
  let (negative, unsigned) := sign text
  match mantissa? unsigned with
  | none => .ok none
  | some (whole, fraction, rest) => do
    let (power, last) ← exponent rest
    return some (Decimal.bounded
      ⟨negative, valueOf (whole ++ fraction), power - fraction.length⟩, last)

/-- What follows a word in any case of letters. -/
def afterWord? : (word text : Text) → Option Text
  | [], text => some text
  | letter :: word, c :: text => if c.toLower = letter then afterWord? word text else none
  | _ :: _, [] => none

end SpokenForm.Numeral
