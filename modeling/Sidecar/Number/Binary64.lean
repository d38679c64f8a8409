/-!
# Double-precision numbers

A `Binary64` is the 64 bits of an IEEE 754 double. The library never calculates with these numbers;
it reads them from decimal text and hands them on. `Binary64.ofDecimal?` rounds a decimal number
to the nearest double, a tie to the even neighbour, and is exact at every step: it works on natural
numbers only.
-/

namespace Sidecar

/-- A double, as its bits: sign, eleven bits of exponent, 52 bits of fraction. -/
structure Binary64 where
  bits : UInt64
  deriving DecidableEq, Repr

namespace Binary64

/-- The magnitude bits of infinity; those of every finite number are smaller. -/
def infinityBits : Nat := 0x7FF0000000000000

/-- Puts a sign and magnitude bits together. -/
def ofMagnitude (negative : Bool) (magnitude : Nat) : Binary64 :=
  ⟨UInt64.ofNat (magnitude + if negative then 0x8000000000000000 else 0)⟩

/-- The quotient rounded to the nearest integer, a tie to the even one. -/
def roundDiv (num den : Nat) : Nat :=
  let quotient := num / den
  let twice := 2 * (num % den)
  if twice < den || (twice = den && quotient % 2 = 0) then quotient else quotient + 1

/-- The exponent of the last place that a positive quotient has as a double: 53 binary digits are
kept, or fewer where the exponent would fall under that of the least double. -/
def lastPlace (num den : Nat) : Int :=
  let guess : Int := (Nat.log2 num : Int) - Nat.log2 den - 53
  let fits : Bool :=
    if 0 ≤ guess then num < den * Nat.pow 2 (guess.toNat + 53)
    else num * Nat.pow 2 (-guess).toNat < den * 0x20000000000000
  max (-1074) (if fits then guess else guess + 1)

/-- The magnitude bits of the double nearest to a quotient; at least `infinityBits` if the quotient
is too large for every double. -/
def magnitudeOfRatio (num den : Nat) : Nat :=
  if num = 0 then 0
  else
    let place := lastPlace num den
    let digits :=
      if 0 ≤ place then roundDiv num (den * Nat.pow 2 place.toNat)
      else roundDiv (num * Nat.pow 2 (-place).toNat) den
    -- the hidden bit, or a digit more from rounding, carries over into the exponent
    (place + 1074).toNat * 0x10000000000000 + digits

/-- The double nearest to `digits · 10 ^ exponent`, unless that is out of range. `places` is at
least the number of digits; it keeps the powers that are formed small. -/
def ofDecimal? (negative : Bool) (digits places : Nat) (exponent : Int) : Option Binary64 :=
  if digits = 0 || exponent + places < -330 then some (ofMagnitude negative 0)
  else if 310 < exponent then none
  else
    let magnitude :=
      if 0 ≤ exponent then magnitudeOfRatio (digits * Nat.pow 10 exponent.toNat) 1
      else magnitudeOfRatio digits (Nat.pow 10 (-exponent).toNat)
    if magnitude < infinityBits then some (ofMagnitude negative magnitude) else none

/-- The double nearest to an integer of at most 64 bits. -/
def ofInt (value : Int) : Binary64 :=
  ofMagnitude (value < 0) (magnitudeOfRatio value.natAbs 1)

def isNegative (x : Binary64) : Bool :=
  0x8000000000000000 ≤ x.bits.toNat

def magnitude (x : Binary64) : Nat :=
  x.bits.toNat % 0x8000000000000000

/-- Whether the number is neither infinite nor a NaN. -/
def isFinite (x : Binary64) : Bool :=
  x.magnitude < infinityBits

/-- A finite number is `mantissa · 2 ^ exponent`, up to its sign. -/
def mantissaExponent (x : Binary64) : Nat × Int :=
  let field : Nat := x.magnitude / 0x10000000000000
  let fraction : Nat := x.magnitude % 0x10000000000000
  if field = 0 then (fraction, -1074) else (0x10000000000000 + fraction, Int.ofNat field - 1075)

end Binary64

end Sidecar
