import SpokenForm.Text

/-! Texts as bytes in UTF-8. -/
namespace SpokenForm.Text

def toUtf8 (text : Text) : ByteArray := (String.ofList text).toUTF8

/-- The text that bytes spell, if they are well formed. -/
def ofUtf8? (bytes : ByteArray) : Option Text := (String.fromUTF8? bytes).map String.toList

/-- What a lead byte announces: the number of bytes behind it, the bounds of the first of them, and
the bits it contributes itself. -/
def leadByte? (byte : Nat) : Option (Nat × Nat × Nat × Nat) :=
  if 0xC2 ≤ byte && byte ≤ 0xDF then some (1, 0x80, 0xBF, byte - 0xC0)
  else if byte = 0xE0 then some (2, 0xA0, 0xBF, 0)
  else if byte = 0xED then some (2, 0x80, 0x9F, 0xD)
  else if 0xE1 ≤ byte && byte ≤ 0xEF then some (2, 0x80, 0xBF, byte - 0xE0)
  else if byte = 0xF0 then some (3, 0x90, 0xBF, 0)
  else if 0xF1 ≤ byte && byte ≤ 0xF3 then some (3, 0x80, 0xBF, byte - 0xF0)
  else if byte = 0xF4 then some (3, 0x80, 0x8F, 4)
  else none

/-- An unfinished character: bytes still due, bounds of the next one, bits so far. -/
structure Partial where
  due : Nat
  least : Nat
  most : Nat
  bits : Nat

/-- Decodes bytes that may be malformed: every longest piece that begins a character but does not
finish one gives one replacement character. -/
def ofUtf8LossyFrom (open? : Option Partial) : List UInt8 → Text
  | [] => if open?.isSome then ['\uFFFD'] else []
  | byte :: rest =>
    let value := byte.toNat
    let fresh (replaced : Text) : Text :=
      if value < 0x80 then replaced ++ Char.ofNat value :: ofUtf8LossyFrom none rest
      else match leadByte? value with
        | some (due, least, most, bits) =>
          replaced ++ ofUtf8LossyFrom (some ⟨due, least, most, bits⟩) rest
        | none => replaced ++ '\uFFFD' :: ofUtf8LossyFrom none rest
    match open? with
    | none => fresh []
    | some character =>
      if character.least ≤ value && value ≤ character.most then
        let bits := character.bits * 64 + value % 64
        if character.due = 1 then Char.ofNat bits :: ofUtf8LossyFrom none rest
        else ofUtf8LossyFrom (some ⟨character.due - 1, 0x80, 0xBF, bits⟩) rest
      else fresh ['\uFFFD']

/-- The text of bytes, with a replacement character for what is malformed. -/
def ofUtf8Lossy (bytes : ByteArray) : Text := ofUtf8LossyFrom none bytes.toList

end SpokenForm.Text
