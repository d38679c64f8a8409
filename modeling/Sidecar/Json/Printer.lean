import Sidecar.Json.Basic
import Sidecar.Number.Shortest
import Sidecar.Text.Utf8

/-!
# Compact JSON text

`Json.print` writes a value without blanks, the members of an object in their order. In a string
only what must be escaped is: the quote, the backslash and the control characters below the space.
-/

namespace Sidecar.Json

/-- A hexadecimal digit in lower case. -/
def hexChar (n : Nat) : Char :=
  Nat.digitChar (n % 16)

/-- One character inside a string. -/
def escapeChar (c : Char) : List Char :=
  if c = '"' then ['\\', '"']
  else if c = '\\' then ['\\', '\\']
  else if c = '\n' then ['\\', 'n']
  else if c = '\r' then ['\\', 'r']
  else if c = '\t' then ['\\', 't']
  else if c = '\x08' then ['\\', 'b']
  else if c = '\x0c' then ['\\', 'f']
  else if c.toNat < 0x20 then ['\\', 'u', '0', '0', hexChar (c.toNat / 16), hexChar c.toNat]
  else [c]

/-- A string between its quotes. -/
def printString (text : String) : List Char :=
  '"' :: text.toList.flatMap escapeChar ++ ['"']

/-- A number; one that is not finite has no text of its own and is written as null. -/
def Number.print : Number → List Char
  | .integer value => (toString value).toList
  | .real value => if value.isFinite then value.text.toList else ['n', 'u', 'l', 'l']

mutual

/-- The characters of a value's text. -/
def printChars : Json → List Char
  | .null => ['n', 'u', 'l', 'l']
  | .bool true => ['t', 'r', 'u', 'e']
  | .bool false => ['f', 'a', 'l', 's', 'e']
  | .number value => value.print
  | .string value => printString value
  | .array items => '[' :: printItems items ++ [']']
  | .object members => '\x7b' :: printMembers members ++ ['\x7d']

def printItems : List Json → List Char
  | [] => []
  | [item] => printChars item
  | item :: rest => printChars item ++ ',' :: printItems rest

def printMembers : List (String × Json) → List Char
  | [] => []
  | [member] => printMember member
  | member :: rest => printMember member ++ ',' :: printMembers rest

def printMember : String × Json → List Char
  | (name, value) => printString name ++ ':' :: printChars value

end

def print (value : Json) : String :=
  String.ofList (printChars value)

def toBytes (value : Json) : List UInt8 :=
  Utf8.encode value.print

end Sidecar.Json
