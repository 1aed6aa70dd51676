/-! The 128-bit MD5 digest of a byte sequence. -/
namespace SpokenForm.Digest

/-- The additive constants of the 64 rounds. -/
def constants : Array UInt32 := #[
  0xd76aa478, 0xe8c7b756, 0x242070db, 0xc1bdceee, 0xf57c0faf, 0x4787c62a,
  0xa8304613, 0xfd469501, 0x698098d8, 0x8b44f7af, 0xffff5bb1, 0x895cd7be,
  0x6b901122, 0xfd987193, 0xa679438e, 0x49b40821, 0xf61e2562, 0xc040b340,
  0x265e5a51, 0xe9b6c7aa, 0xd62f105d, 0x02441453, 0xd8a1e681, 0xe7d3fbc8,
  0x21e1cde6, 0xc33707d6, 0xf4d50d87, 0x455a14ed, 0xa9e3e905, 0xfcefa3f8,
  0x676f02d9, 0x8d2a4c8a, 0xfffa3942, 0x8771f681, 0x6d9d6122, 0xfde5380c,
  0xa4beea44, 0x4bdecfa9, 0xf6bb4b60, 0xbebfbc70, 0x289b7ec6, 0xeaa127fa,
  0xd4ef3085, 0x04881d05, 0xd9d4d039, 0xe6db99e5, 0x1fa27cf8, 0xc4ac5665,
  0xf4292244, 0x432aff97, 0xab9423a7, 0xfc93a039, 0x655b59c3, 0x8f0ccc92,
  0xffeff47d, 0x85845dd1, 0x6fa87e4f, 0xfe2ce6e0, 0xa3014314, 0x4e0811a1,
  0xf7537e82, 0xbd3af235, 0x2ad7d2bb, 0xeb86d391]

/-- The rotations of the 64 rounds. -/
def rotations : Array UInt32 :=
  #[7, 12, 17, 22, 7, 12, 17, 22, 7, 12, 17, 22, 7, 12, 17, 22,
    5, 9, 14, 20, 5, 9, 14, 20, 5, 9, 14, 20, 5, 9, 14, 20,
    4, 11, 16, 23, 4, 11, 16, 23, 4, 11, 16, 23, 4, 11, 16, 23,
    6, 10, 15, 21, 6, 10, 15, 21, 6, 10, 15, 21, 6, 10, 15, 21]

/-- The four words that a digest is made of. -/
structure State where
  a : UInt32
  b : UInt32
  c : UInt32
  d : UInt32

def State.initial : State := ⟨0x67452301, 0xefcdab89, 0x98badcfe, 0x10325476⟩

/-- The bytes of a number, least first. -/
def littleEndian : Nat → Nat → List UInt8
  | 0, _ => []
  | width + 1, value => UInt8.ofNat value :: littleEndian width (value / 256)

/-- One set bit, zeros up to 56 bytes modulo 64, and the length in bits. -/
def padded (bytes : ByteArray) : ByteArray :=
  let zeros := (119 - bytes.size % 64) % 64
  bytes ++ ⟨((0x80 :: List.replicate zeros 0) ++ littleEndian 8 (bytes.size * 8)).toArray⟩

def wordAt (bytes : ByteArray) (start : Nat) : UInt32 :=
  let byte (offset : Nat) : UInt32 := ((bytes[start + offset]?).getD 0).toUInt32
  byte 0 ||| byte 1 <<< 8 ||| byte 2 <<< 16 ||| byte 3 <<< 24

/-- One round over the block that starts at a byte. -/
def round (bytes : ByteArray) (start : Nat) (state : State) (index : Nat) : State :=
  let ⟨a, b, c, d⟩ := state
  let (mix, word) :=
    if index < 16 then ((b &&& c) ||| (~~~b &&& d), index)
    else if index < 32 then ((d &&& b) ||| (~~~d &&& c), (5 * index + 1) % 16)
    else if index < 48 then (b ^^^ c ^^^ d, (3 * index + 5) % 16)
    else (c ^^^ (b ||| ~~~d), 7 * index % 16)
  let sum := a + mix + constants.getD index 0 + wordAt bytes (start + 4 * word)
  let shift := rotations.getD index 0
  ⟨d, b + (sum <<< shift ||| sum >>> (32 - shift)), b, c⟩

/-- The state after one block of 64 bytes. -/
def absorb (bytes : ByteArray) (state : State) (block : Nat) : State :=
  let last := (List.range 64).foldl (round bytes (64 * block)) state
  ⟨state.a + last.a, state.b + last.b, state.c + last.c, state.d + last.d⟩

def hexByte (byte : UInt8) : List Char :=
  [Nat.digitChar (byte.toNat / 16), Nat.digitChar (byte.toNat % 16)]

/-- The digest as 32 hexadecimal digits. -/
def hex (bytes : ByteArray) : List Char :=
  let input := padded bytes
  let last := (List.range (input.size / 64)).foldl (absorb input) State.initial
  [last.a, last.b, last.c, last.d].flatMap fun word => (littleEndian 4 word.toNat).flatMap hexByte

end SpokenForm.Digest
