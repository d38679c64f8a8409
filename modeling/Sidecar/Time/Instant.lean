import Sidecar.Text.Blank
import Sidecar.Time.Calendar

/-!
# Instants

An `Instant` is a point in time to the nanosecond, kept in UTC. Its text is that of RFC 3339:
`Instant.text` writes the fewest of 0, 3, 6 or 9 fraction digits, and `Instant.parse?` reads more
than that, such as one-digit months, white space around the parts, leap seconds and years with a
sign.
-/

namespace Sidecar

def nanosPerSecond : Nat := 1000000000

/-- Whether there is such a point in time: its date is one of the calendar, and its nanoseconds are those
of a second or, from 10⁹ on, of a leap second, the one after second 59. -/
structure Instant.IsProper (second : Int) (nanos : Nat) : Prop where
  isValid : (Date.ofDays (second / 86400)).isValid = true
  nanos_lt : nanos < 2 * nanosPerSecond
  leap : nanosPerSecond ≤ nanos → second % 60 = 59

/-- A point in time. -/
structure Instant where
  /-- The seconds since 1970-01-01T00:00:00Z, leap seconds not counted. -/
  second : Int
  nanos : Nat
  isProper : Instant.IsProper second nanos
  deriving DecidableEq, Repr

namespace Instant

instance (second : Int) (nanos : Nat) : Decidable (IsProper second nanos) :=
  decidable_of_iff
    ((Date.ofDays (second / 86400)).isValid = true ∧ nanos < 2 * nanosPerSecond ∧
      (nanosPerSecond ≤ nanos → second % 60 = 59))
    ⟨fun ⟨isValid, nanos_lt, leap⟩ => ⟨isValid, nanos_lt, leap⟩,
      fun ⟨isValid, nanos_lt, leap⟩ => ⟨isValid, nanos_lt, leap⟩⟩

/-- The point in time at a second and a nanosecond, if there is one. -/
def make? (second : Int) (nanos : Nat) : Option Instant :=
  if isProper : IsProper second nanos then some ⟨second, nanos, isProper⟩ else none

/-- A number in decimal digits, padded with zeros. -/
def padded (width n : Nat) : List Char :=
  let digits := Nat.toDigits 10 n
  List.replicate (width - digits.length) '0' ++ digits

/-- A year has four digits. Outside 0 to 9999 it has a sign, and more digits where it needs them. -/
def yearText (year : Int) : List Char :=
  if 0 ≤ year ∧ year ≤ 9999 then padded 4 year.toNat
  else (if year < 0 then '-' else '+') :: padded 4 year.natAbs

/-- The fraction of a second, with the point. -/
def fractionText (nanos : Nat) : List Char :=
  if nanos = 0 then []
  else if nanos % 1000000 = 0 then '.' :: padded 3 (nanos / 1000000)
  else if nanos % 1000 = 0 then '.' :: padded 6 (nanos / 1000)
  else '.' :: padded 9 nanos

def date (t : Instant) : Date := Date.ofDays (t.second / 86400)

/-- The second of the day. -/
def clock (t : Instant) : Nat := (t.second % 86400).toNat

/-- The second of the minute as it is written; that of a leap second is 60. -/
def writtenSecond (t : Instant) : Nat :=
  t.clock % 60 + if nanosPerSecond ≤ t.nanos then 1 else 0

/-- The nanoseconds as they are written. -/
def fraction (t : Instant) : Nat :=
  if nanosPerSecond ≤ t.nanos then t.nanos - nanosPerSecond else t.nanos

/-- The text of an instant, in UTC. -/
def text (t : Instant) : String :=
  String.ofList <|
    yearText t.date.year ++ '-' :: padded 2 t.date.month ++ '-' :: padded 2 t.date.day ++
    'T' :: padded 2 (t.clock / 3600) ++ ':' :: padded 2 (t.clock / 60 % 60) ++
    ':' :: padded 2 t.writtenSecond ++ fractionText t.fraction ++ ['Z']

/-! ## Reading -/

/-- Reads one to `width` digits. -/
def digits? (width : Nat) (cs : List Char) : Option (Nat × List Char) :=
  let digits := (cs.takeWhile Char.isDigit).take width
  if digits.isEmpty then none
  else some (digits.foldl (fun n c => n * 10 + (c.toNat - 48)) 0, cs.drop digits.length)

/-- Reads a number that white space may precede. -/
def number? (width : Nat) (cs : List Char) : Option (Nat × List Char) :=
  digits? width (Text.trimStart cs)

/-- Reads a character that white space may precede. -/
def separator? (c : Char) (cs : List Char) : Option (List Char) :=
  match Text.trimStart cs with
  | d :: rest => if d = c then some rest else none
  | [] => none

/-- Reads a year. With a sign it may have any number of digits, otherwise up to four. -/
def year? (cs : List Char) : Option (Int × List Char) :=
  match Text.trimStart cs with
  | '-' :: rest => (digits? rest.length rest).map fun (n, rest) => (-n, rest)
  | '+' :: rest => (digits? rest.length rest).map fun (n, rest) => (n, rest)
  | cs => (digits? 4 cs).map fun (n, rest) => (n, rest)

def date? (cs : List Char) : Option (Date × List Char) := do
  let (year, cs) ← year? cs
  let cs ← separator? '-' cs
  let (month, cs) ← number? 2 cs
  let cs ← separator? '-' cs
  let (day, cs) ← number? 2 cs
  let date : Date := ⟨year, month, day⟩
  if date.isValid then some (date, cs) else none

/-- Reads the fraction of a second in nanoseconds; digits after the ninth do not count. -/
def fraction? : List Char → Option (Nat × List Char)
  | '.' :: cs =>
    let digits := (cs.takeWhile Char.isDigit).take 9
    if digits.isEmpty then none
    else
      let value := digits.foldl (fun n c => n * 10 + (c.toNat - 48)) 0
      some (value * Nat.pow 10 (9 - digits.length), cs.dropWhile Char.isDigit)
  | cs => some (0, cs)

/-- Reads the time of day: the second of the day and the nanosecond. Second 60 is the leap second
after second 59. -/
def clock? (cs : List Char) : Option ((Nat × Nat) × List Char) := do
  let (hour, cs) ← number? 2 cs
  let cs ← separator? ':' cs
  let (minute, cs) ← number? 2 cs
  let cs ← separator? ':' cs
  let (second, cs) ← number? 2 cs
  let (nanos, cs) ← fraction? cs
  if 23 < hour || 59 < minute || 60 < second then none
  -- the leap second shares the second before it, and its nanoseconds go on from there
  else if second = 60 then
    some (((hour * 60 + minute) * 60 + 59, nanosPerSecond + nanos), cs)
  else some (((hour * 60 + minute) * 60 + second, nanos), cs)

/-- Reads two digits, the first of which is below a bound. -/
def twoDigits? (bound : Nat) : List Char → Option (Nat × List Char)
  | a :: b :: rest =>
    if a.isDigit && b.isDigit && a.toNat - 48 < bound then
      some ((a.toNat - 48) * 10 + (b.toNat - 48), rest)
    else none
  | _ => none

/-- Reads hours and minutes of an offset, with any colons and white space between them. -/
def hoursMinutes? (cs : List Char) : Option (Int × List Char) := do
  let (hours, cs) ← twoDigits? 10 cs
  let (minutes, cs) ← twoDigits? 6 (cs.dropWhile fun c => c = ':' || Text.isBlank c)
  if hours < 24 then some (((hours * 60 + minutes) * 60 : Nat), cs) else none

/-- Reads the offset from UTC in seconds. The sign may be a hyphen or the minus sign U+2212. -/
def offset? : List Char → Option (Int × List Char)
  | 'Z' :: rest => some (0, rest)
  | 'z' :: rest => some (0, rest)
  | '+' :: rest => hoursMinutes? rest
  | '-' :: rest => (hoursMinutes? rest).map fun (n, rest) => (-n, rest)
  | '\u2212' :: rest => (hoursMinutes? rest).map fun (n, rest) => (-n, rest)
  | u :: t :: c :: rest =>
    if u.toUpper = 'U' && t.toUpper = 'T' && c.toUpper = 'C' then some (0, rest) else none
  | _ => none

/-- Reads an instant. The date is looked at twice: as it is written, and in UTC. -/
def parseChars? (cs : List Char) : Option Instant := do
  let (date, cs) ← date? cs
  match cs with
  | [] => none
  | c :: cs =>
    if c ≠ 'T' && c ≠ 't' && c ≠ ' ' then none
    let ((second, nanos), cs) ← clock? cs
    let (offset, cs) ← offset? (Text.trimStart cs)
    if !(Text.trimStart cs).isEmpty then none
    make? (date.toDays * 86400 + second - offset) nanos

def parse? (text : String) : Option Instant :=
  parseChars? text.toList

end Instant

end Sidecar
