import SpokenForm.Text
import SpokenForm.Unicode.Printable

/-! Texts and characters in quotes, as messages show them: the quote, the backslash and everything
that would not show are escaped. -/
namespace SpokenForm.Text

open Unicode

/-- One character inside quotes. -/
def escaped (quote : Char) (c : Char) : Text :=
  if c = '\x00' then ['\\', '0']
  else if c = '\t' then ['\\', 't']
  else if c = '\n' then ['\\', 'n']
  else if c = '\r' then ['\\', 'r']
  else if c = '\\' ∨ c = quote then ['\\', c]
  else if isExtending c || !isPrintable c then
    "\\u\x7b".toList ++ Nat.toDigits 16 c.toNat ++ ['}']
  else [c]

def quoted (text : Text) : String :=
  String.ofList ('"' :: text.flatMap (escaped '"') ++ ['"'])

def quotedChar (c : Char) : String := String.ofList ('\'' :: escaped '\'' c ++ ['\''])

end SpokenForm.Text
