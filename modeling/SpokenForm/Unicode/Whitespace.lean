import SpokenForm.Unicode.Ranges

/-! White space: the property White_Space (Unicode 17). -/
namespace SpokenForm.Unicode

/-- The 25 characters with the property White_Space. -/
def whitespaceRanges : Ranges :=
  [(0x9, 0xD), (0x20, 0x20), (0x85, 0x85), (0xA0, 0xA0), (0x1680, 0x1680), (0x2000, 0x200A),
  (0x2028, 0x2029), (0x202F, 0x202F), (0x205F, 0x205F), (0x3000, 0x3000)]

/-- Blanks and line ends of every script. -/
def isWhitespace (c : Char) : Bool := whitespaceRanges.contains c.toNat

end SpokenForm.Unicode
