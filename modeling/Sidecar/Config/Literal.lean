import Sidecar.Config.Escape
import Sidecar.Config.Value
import Sidecar.Number.Integer
import Sidecar.Text.Blank

/-!
# Values in variables

The value of a variable may spell a truth value, a number, a list such as `[a, b]` or a table such
as `{a = 1, b = 2}`. A text needs double quotes only where it could be taken for something else.
What is no spelling of a value is a text as it stands.
-/

namespace Sidecar.Config.Literal

def isBlank (c : Char) : Bool :=
  c = ' ' || c = '\t' || c = '\n' || c = '\x0c' || c = '\r'

def isSeparator (c : Char) : Bool :=
  ",\x7b\x7d[]".toList.contains c

/-- The characters of a name without quotes. -/
def isNameChar (c : Char) : Bool :=
  c.isAlphanum || c = '_' || c = '-'

def skipBlanks (cs : List Char) : List Char := cs.dropWhile isBlank

/-- Drops the sign that a number may have. -/
def withoutSign : List Char → List Char
  | '+' :: rest => rest
  | '-' :: rest => rest
  | cs => cs

/-- Whether a text is a number with a decimal point. -/
def isReal (cs : List Char) : Bool :=
  let isLetter (c : Char) := c = 'e' || c = 'E'
  let body := withoutSign cs
  let mantissa := body.takeWhile (!isLetter ·)
  let digits := mantissa.takeWhile (· ≠ '.') ++ (mantissa.dropWhile (· ≠ '.')).drop 1
  let exponentIsNumber := match body.dropWhile (!isLetter ·) with
    | [] => true
    | _ :: rest => (Integer.digits? (withoutSign rest)).isSome
  mantissa.contains '.' && (Integer.digits? digits).isSome && exponentIsNumber

/-- The value of a text without quotes. -/
def plain (cs : List Char) : Value :=
  if isReal cs then .real
  else match (Integer.unsigned? UInt64.size cs).map Int.ofNat <|>
      Integer.signed? 0x8000000000000000 cs with
    | some n => .integer n
    | none => .text (String.ofList cs)

/-- Reads a value that is not made of other values. -/
def scalar? : List Char → Option (Value × List Char)
  | 't' :: 'r' :: 'u' :: 'e' :: rest => some (.truth true, rest)
  | 'f' :: 'a' :: 'l' :: 's' :: 'e' :: rest => some (.truth false, rest)
  | '"' :: rest => (quotedString? rest).map fun (value, rest) => (.text value, rest)
  | '\'' :: c :: '\'' :: rest => some (.char c, rest)
  | '\'' :: _ => none
  | cs =>
    some (plain (Text.trim (cs.takeWhile (!isSeparator ·))), cs.dropWhile (!isSeparator ·))

/-- Reads the name of a member and the sign behind it. -/
def name? (cs : List Char) : Option (String × List Char) := do
  let cs := skipBlanks cs
  let (name, rest) ← match cs with
    | '"' :: rest => quotedString? rest
    | cs =>
      let name := cs.takeWhile isNameChar
      if name.isEmpty then none else some (String.ofList name, cs.dropWhile isNameChar)
  match skipBlanks rest with
  | '=' :: rest => some (name, rest)
  | _ => none

mutual

/-- Reads a value and the blanks around it. Every step of reading takes one unit of `fuel`. -/
def value? : (fuel : Nat) → List Char → Option (Value × List Char)
  | 0, _ => none
  | fuel + 1, cs => do
    let (value, rest) ← match skipBlanks cs with
      | '[' :: rest => (items? fuel rest).map fun (items, rest) => (.list items, rest)
      | '\x7b' :: rest =>
        (members? fuel [] rest).map fun (members, rest) => (.table members, rest)
      | cs => scalar? cs
    return (value, skipBlanks rest)

/-- Reads the items of a list up to its closing bracket. A comma may stand behind the last one. -/
def items? : (fuel : Nat) → List Char → Option (List Value × List Char)
  | 0, _ => none
  | _, ']' :: rest => some ([], rest)
  | fuel + 1, cs => do
    let (value, rest) ← value? fuel cs
    match rest with
    | ',' :: rest => (items? fuel rest).map fun (values, rest) => (value :: values, rest)
    | ']' :: rest => some ([value], rest)
    | _ => none

/-- Reads the members of a table up to its closing brace. Of two members of one name the last one
counts. -/
def members? : (fuel : Nat) → Members → List Char → Option (Members × List Char)
  | 0, _, _ => none
  | _, before, '\x7d' :: rest => some (before, rest)
  | fuel + 1, before, cs => do
    let (name, rest) ← name? cs
    let (value, rest) ← value? fuel rest
    let members := Named.put name value before
    match rest with
    | ',' :: rest => members? fuel members rest
    | '\x7d' :: rest => some (members, rest)
    | _ => none

end

/-- The value that a text spells. Between two characters that are taken there are at most two
steps. -/
def parse (text : List Char) : Value :=
  match value? (2 * text.length + 2) text with
  | some (value, []) => value
  | _ => .text (String.ofList text)

end Sidecar.Config.Literal
