import Sidecar.Json.Token

/-!
# Escapes in configured strings

Between double quotes a backslash starts an escape: `b`, `f`, `n`, `r`, `t`, the quote and the
backslash stand for one character each, `u` and `U` for the character whose code follows in four or
eight hexadecimal digits.
-/

namespace Sidecar.Config

/-- Where the reader of escapes stands. -/
inductive Escape where
  | outside
  | letter
  /-- In a code, with `left` digits to come. -/
  | code (left value : Nat)

def escapedChar? : Char → Option Char
  | 'b' => some '\x08'
  | 'f' => some '\x0c'
  | 'n' => some '\n'
  | 'r' => some '\r'
  | 't' => some '\t'
  | '"' => some '"'
  | '\\' => some '\\'
  | _ => none

/-- Takes one character: where the reader stands then, and the character that is complete. -/
def Escape.next (plain : Char → Bool) (c : Char) : Escape → Option (Escape × Option Char)
  | .outside =>
    if c = '\\' then some (.letter, none)
    else if plain c then some (.outside, some c)
    else none
  | .letter =>
    if c = 'u' then some (.code 4 0, none)
    else if c = 'U' then some (.code 8 0, none)
    else (escapedChar? c).map fun c => (.outside, some c)
  | .code left value =>
    match if c.toNat < 0x80 then Json.hexDigit? c.toUInt8 else none with
    | none => none
    | some digit =>
      let value := value * 16 + digit
      if left ≤ 1 then
        if value.isValidChar then some (.outside, some (Char.ofNat value)) else none
      else some (.code (left - 1) value, none)

/-- Replaces the escapes in a text in which the characters `plain` may stand for themselves. -/
def unescape (plain : Char → Bool) : Escape → List Char → Option (List Char)
  | .outside, [] => some []
  | _, [] => none
  | escape, c :: rest =>
    match escape.next plain c with
    | none => none
    | some (escape, completed) => (unescape plain escape rest).map (completed.toList ++ ·)

/-- Cuts a text at the first double quote that is not behind a backslash. -/
def untilQuote : List Char → Option (List Char × List Char)
  | [] => none
  | '"' :: rest => some ([], rest)
  | '\\' :: c :: rest => (untilQuote rest).map fun (inner, rest) => ('\\' :: c :: inner, rest)
  | c :: rest => (untilQuote rest).map fun (inner, rest) => (c :: inner, rest)

/-- The characters that may stand for themselves in a string on one line. -/
def isPlain (c : Char) : Bool :=
  c = '\t' || (0x20 ≤ c.toNat && c.toNat ≠ 0x7F)

def quotedString? (cs : List Char) : Option (String × List Char) := do
  let (inner, rest) ← untilQuote cs
  let inner ← unescape isPlain .outside inner
  return (String.ofList inner, rest)

end Sidecar.Config
