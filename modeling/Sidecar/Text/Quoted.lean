import Sidecar.Text.Glyphless

/-!
# Quoted text

Messages show a foreign text or byte between quotes, so that its end and its invisible characters
can be seen. A backslash, the quote itself, tab, line feed, carriage return and NUL have an escape
of two characters; every other character without a glyph is written as its code point.
-/

namespace Sidecar.Text

/-- A code point in lower-case hexadecimal digits, without leading zeros. -/
def hexadecimal (n : Nat) : List Char :=
  Nat.toDigits 16 n

/-- The spelling of one character between quotes of the given kind. -/
def escape (quote : Char) (c : Char) : List Char :=
  if c = '\x00' then ['\\', '0']
  else if c = '\t' then ['\\', 't']
  else if c = '\n' then ['\\', 'n']
  else if c = '\r' then ['\\', 'r']
  else if c = '\\' || c = quote then ['\\', c]
  else if isGlyphless c then ['\\', 'u', '\x7b'] ++ hexadecimal c.toNat ++ ['\x7d']
  else [c]

def quote (text : String) : String :=
  String.ofList ('"' :: text.toList.flatMap (escape '"') ++ ['"'])

/-- A byte, shown between single quotes as the character with its number. -/
def quoteByte (b : UInt8) : String :=
  String.ofList ('\'' :: escape '\'' (Char.ofUInt8 b) ++ ['\''])

end Sidecar.Text
