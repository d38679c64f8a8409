import Sidecar.Config.Value
import Sidecar.Number.Binary64
import Sidecar.Json.Token
import Sidecar.Number.Integer
import Sidecar.Time.Calendar

/-!
# Scalars of TOML

The truth values, numbers, dates and times that are written without quotes.
-/

namespace Sidecar.Config.Toml

/-- Takes out the underscores between digits. None may stand anywhere else. -/
def withoutUnderscores (isDigit : Char → Bool) : List Char → Option (List Char)
  | [] => some []
  | [c] => if isDigit c then some [c] else none
  | c :: '_' :: d :: rest =>
    if isDigit c && isDigit d then
      (withoutUnderscores isDigit (d :: rest)).map (c :: ·)
    else none
  | c :: rest => if isDigit c then (withoutUnderscores isDigit rest).map (c :: ·) else none

/-- The digits of a number that may start with zeros. -/
def digits? (cs : List Char) : Option (List Char) :=
  (withoutUnderscores Char.isDigit cs).filter (!·.isEmpty)

/-- The digits of a number that starts with a zero only if it is 0. -/
def wholeDigits? (cs : List Char) : Option (List Char) :=
  (digits? cs).filter fun ds => ds.head? ≠ some '0' || ds.length = 1

/-- Splits off a sign; tells whether it is a minus sign. -/
def splitSign : List Char → Bool × List Char
  | '-' :: rest => (true, rest)
  | '+' :: rest => (false, rest)
  | cs => (false, cs)

def digitValue (c : Char) : Option Nat :=
  if c.toNat < 0x80 then Json.hexDigit? c.toUInt8 else none

def based? (base : Nat) (cs : List Char) : Option Nat := do
  let isDigit (c : Char) := (digitValue c).any (· < base)
  let digits ← (withoutUnderscores isDigit cs).filter (!·.isEmpty)
  return digits.foldl (fun n c => n * base + (digitValue c).getD 0) 0

/-- An integer of 64 bits. A base other than ten allows no sign. -/
def integer? (cs : List Char) : Option Int := do
  let value : Int ← match cs with
    | '0' :: 'x' :: rest => (based? 16 rest).map Int.ofNat
    | '0' :: 'o' :: rest => (based? 8 rest).map Int.ofNat
    | '0' :: 'b' :: rest => (based? 2 rest).map Int.ofNat
    | cs =>
      let (negative, cs) := splitSign cs
      ((wholeDigits? cs).bind Integer.digits?).map fun n => if negative then -(n : Int) else n
  if -0x8000000000000000 ≤ value ∧ value < 0x8000000000000000 then some value else none

def exponent? (cs : List Char) : Option Int :=
  let (negative, cs) := splitSign cs
  ((digits? cs).bind Integer.digits?).map fun n => if negative then -(n : Int) else n

/-- Whether a text is a number with a fraction or an exponent. A positive one must be within the
range of doubles. -/
def isReal (cs : List Char) : Bool :=
  let (negative, body) := splitSign cs
  if body = ['i', 'n', 'f'] || body = ['n', 'a', 'n'] then true
  else
    let isLetter (c : Char) := c = 'e' || c = 'E'
    let mantissa := body.takeWhile (!isLetter ·)
    let whole := mantissa.takeWhile (· ≠ '.')
    let fraction : Option (List Char) := match mantissa.dropWhile (· ≠ '.') with
      | [] => if mantissa.length < body.length then some [] else none
      | _ :: places => digits? places
    let exponent : Option Int := match body.dropWhile (!isLetter ·) with
      | [] => some 0
      | _ :: rest => exponent? rest
    match wholeDigits? whole, fraction, exponent with
    | some whole, some fraction, some exponent =>
      let digits := (Integer.digits? (whole ++ fraction)).getD 0
      let places := whole.length + fraction.length
      let exponent := exponent - fraction.length
      negative || (Binary64.ofDecimal? negative digits places exponent).isSome
    | _, _, _ => false

def fixed? (width : Nat) (cs : List Char) : Option (Nat × List Char) := do
  let n ← Integer.digits? (cs.take width)
  if (cs.take width).length = width then some (n, cs.drop width) else none

def expect? (c : Char) : List Char → Option (List Char)
  | d :: rest => if c = d then some rest else none
  | [] => none

/-- Reads a date of the calendar. -/
def date? (cs : List Char) : Option (List Char) := do
  let (year, cs) ← fixed? 4 cs
  let (month, cs) ← fixed? 2 (← expect? '-' cs)
  let (day, cs) ← fixed? 2 (← expect? '-' cs)
  if (Date.mk year month day).isValid then some cs else none

def time? (cs : List Char) : Option (List Char) := do
  let (hour, cs) ← fixed? 2 cs
  let (minute, cs) ← fixed? 2 (← expect? ':' cs)
  let (second, cs) ← fixed? 2 (← expect? ':' cs)
  if 23 < hour || 59 < minute || 60 < second then none
  match cs with
  | '.' :: places =>
    if (places.takeWhile Char.isDigit).isEmpty then none
    else some (places.dropWhile Char.isDigit)
  | cs => some cs

/-- Whether a text is an offset from UTC or empty. -/
def isOffset (cs : List Char) : Bool :=
  match cs with
  | [] => true
  | ['Z'] => true
  | ['z'] => true
  | sign :: rest =>
    (sign = '+' || sign = '-') && (do
      let (hours, rest) ← fixed? 2 rest
      let (minutes, rest) ← fixed? 2 (← expect? ':' rest)
      return hours ≤ 23 && minutes ≤ 59 && rest.isEmpty) = some true

/-- Whether a text is a date, a time of the day, or both. -/
def isMoment (cs : List Char) : Bool :=
  match date? cs with
  | none => time? cs = some []
  | some [] => true
  | some (c :: rest) => (c = 'T' || c = 't' || c = ' ') && (time? rest).any isOffset

/-- The name under which a layer holds a date or a time. No setting has this name. -/
def momentName : String := "$__toml_private_datetime"

/-- The value of a text without quotes. A date or a time is a table with one member. -/
def scalar? (cs : List Char) : Option Value :=
  if cs = ['t', 'r', 'u', 'e'] then some (.truth true)
  else if cs = ['f', 'a', 'l', 's', 'e'] then some (.truth false)
  else match integer? cs with
    | some n => some (.integer n)
    | none =>
      if isReal cs then some .real
      else if isMoment cs then some (.table [(momentName, .text (String.ofList cs))])
      else none

end Sidecar.Config.Toml
