import SpokenForm.Count
import SpokenForm.Decimal
import SpokenForm.Json.Syntax

/-! JSON values. The members of an object keep their order, and integers of 64 bits are exact. -/
namespace SpokenForm

/-- A JSON value. -/
inductive JsonValue where
  | null
  | bool (value : Bool)
  | integer (value : Int)
  | float (value : Float)
  | string (text : Text)
  | array (items : List JsonValue)
  | object (members : List (Text × JsonValue))
deriving BEq, Repr

/-- The members of an object, in order. -/
abbrev JsonObject := List (Text × JsonValue)

namespace Json

/-- Sets a member; one that is there keeps its place, and a new one comes last. -/
def setMember (key : Text) (value : JsonValue) : JsonObject → JsonObject
  | [] => [(key, value)]
  | (name, old) :: rest =>
    if name = key then (name, value) :: rest else (name, old) :: setMember key value rest

/-- Leading digits of a number, counted in a power of ten, and whether there is no room for more. -/
structure Significand where
  digits : Nat
  power : Int
  full : Bool
deriving DecidableEq, Repr

def digitValue (c : Char) : Nat := c.toNat - 48

/-- Takes a digit in front of the point; without room it only counts. -/
def Significand.addWhole (number : Significand) (c : Char) : Significand :=
  if number.full || Count.largest < 10 * number.digits + digitValue c then
    { number with power := number.power + 1, full := true }
  else { number with digits := 10 * number.digits + digitValue c }

/-- Takes a digit behind the point; without room it is dropped. -/
def Significand.addFraction (number : Significand) (c : Char) : Significand :=
  if number.full || Count.largest < 10 * number.digits + digitValue c then { number with full := true }
  else { number with digits := 10 * number.digits + digitValue c, power := number.power - 1 }

/-- The nearest floating-point number to a power of ten. -/
def powerOfTen (exponent : Nat) : Float := Float.ofScientific 1 false exponent

/-- Divides by 10 ^ 308 until the rest of a negative power is in range, or nothing is left. -/
def scaleDown (value : Float) : (rounds : Nat) → (power : Nat) → Float
  | 0, _ => 0
  | rounds + 1, power =>
    if power ≤ 308 then value / powerOfTen power
    else if value == 0 then value
    else scaleDown (value / powerOfTen 308) rounds (power - 308)

/-- Digits times a power of ten, rounded twice: as digits and as a product. Powers out of range have no
value. -/
def scaled? (digits : Nat) (power : Int) : Option Float :=
  let value := Float.ofNat digits
  if power < 0 then some (scaleDown value 8 power.natAbs)
  else if 308 < power then if digits = 0 then some 0 else none
  else some (value * powerOfTen power.toNat)

def valueOf (digits : Text) : Nat := digits.foldl (fun value c => 10 * value + digitValue c) 0

/-- The largest exponent that is worked with, one of 32 bits with a sign. -/
def largestExponent : Nat := 0x7FFFFFFF

/-- How far integers of 64 bits with a sign go below zero. -/
def lowestInteger : Nat := 0x8000000000000000

/-- The floating-point number without sign that digits and an exponent spell. -/
def magnitude? (number : Significand) (exponent? : Option (Bool × Text)) : Option Float :=
  match exponent? with
  | none => scaled? number.digits number.power
  | some (negative, spelled) =>
    let exponent := valueOf spelled
    if largestExponent < exponent then
      if number.digits ≠ 0 && !negative then none else some 0
    else scaled? number.digits (number.power + if negative then -(exponent : Int) else exponent)

/-- A floating-point number as a value, if it is finite. -/
def floatValue? (value : Float) : Option JsonValue :=
  if Decimal.isFinite value then some (.float value) else none

/-- A floating-point number with its sign. -/
def signed? (negative : Bool) (value : Float) : Option JsonValue :=
  floatValue? (if negative then -value else value)

/-- Digits of an integer that has room for them. Below zero there is less room, and zero has no sign. -/
def integerValue? (negative : Bool) (digits : Nat) : Option JsonValue :=
  if !negative then some (.integer digits)
  else if 0 < digits && digits ≤ lowestInteger then some (.integer (-digits))
  else signed? negative (Float.ofNat digits)

def numberValue? (spelling : NumberSpelling) : Option JsonValue :=
  let whole := spelling.whole.foldl Significand.addWhole ⟨0, 0, false⟩
  if spelling.fraction.isEmpty && spelling.exponent?.isNone && !whole.full then
    integerValue? spelling.negative whole.digits
  else
    let number := spelling.fraction.foldl Significand.addFraction { whole with full := false }
    (magnitude? number spelling.exponent?).bind (signed? spelling.negative)

/-- The text that pieces of a string spell, where units come in pairs if they have to. -/
def stringValue? : List StringPiece → Option Text
  | [] => some []
  | .char c :: rest => (stringValue? rest).map (c :: ·)
  | .unit value :: rest =>
    if 0xD800 ≤ value && value ≤ 0xDBFF then
      match rest with
      | .unit low :: last =>
        if 0xDC00 ≤ low && low ≤ 0xDFFF then
          (stringValue? last).map
            (Char.ofNat (0x10000 + (value - 0xD800) * 0x400 + (low - 0xDC00)) :: ·)
        else none
      | _ => none
    else if 0xDC00 ≤ value && value ≤ 0xDFFF then none
    else (stringValue? rest).map (Char.ofNat value :: ·)

mutual

/-- The value of a tree that nests at most so deep. -/
def treeValue? : (depth : Nat) → Syntax → Option JsonValue
  | _, .null => some .null
  | _, .bool value => some (.bool value)
  | _, .number spelling => numberValue? spelling
  | _, .string pieces => (stringValue? pieces).map .string
  | 0, .array _ => none
  | 0, .object _ _ => none
  | depth + 1, .array items => (treeValues? depth items).map .array
  | depth + 1, .object keys values => do
    let names ← keys.mapM stringValue?
    let members ← treeValues? depth values
    return .object ((names.zip members).foldl
      (fun object (name, value) => setMember name value object) [])

def treeValues? : (depth : Nat) → List Syntax → Option (List JsonValue)
  | _, [] => some []
  | depth, tree :: rest => do
    let value ← treeValue? depth tree
    return value :: (← treeValues? depth rest)

end

/-- The deepest nesting that is read. -/
def deepest : Nat := 127

def objectOfText? (text : Text) : Option JsonObject :=
  match (Syntax.ofText? text).bind (treeValue? deepest) with
  | some (.object members) => some members
  | _ => none

def hexUnit (value : Nat) : Text :=
  let digits := Nat.toDigits 16 value
  List.replicate (4 - digits.length) '0' ++ digits

/-- A character inside a string. -/
def escapeChar (c : Char) : Text :=
  if c = '"' ∨ c = '\\' then ['\\', c]
  else if c = '\x08' then ['\\', 'b']
  else if c = '\x0c' then ['\\', 'f']
  else if c = '\n' then ['\\', 'n']
  else if c = '\r' then ['\\', 'r']
  else if c = '\t' then ['\\', 't']
  else if c.toNat < 0x20 then ['\\', 'u'] ++ hexUnit c.toNat
  else [c]

/-- A string in quotes. -/
def quote (text : Text) : Text := '"' :: text.flatMap escapeChar ++ ['"']

def integerText (value : Int) : Text := (toString value).toList

mutual

/-- A value without blanks. -/
def compact : JsonValue → Text
  | .null => "null".toList
  | .bool value => (toString value).toList
  | .integer value => integerText value
  | .float value => Decimal.text value
  | .string text => quote text
  | .array items => '[' :: Text.joinBy [','] (compactItems items) ++ [']']
  | .object members => '{' :: Text.joinBy [','] (compactMembers members) ++ ['}']

def compactItems : List JsonValue → List Text
  | [] => []
  | item :: rest => compact item :: compactItems rest

def compactMembers : List (Text × JsonValue) → List Text
  | [] => []
  | (key, value) :: rest => (quote key ++ ':' :: compact value) :: compactMembers rest

end

def compactObject (object : JsonObject) : Text := compact (.object object)

end Json

end SpokenForm
