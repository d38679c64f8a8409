/-!
# Lengths of time

A `Timespan` has a resolution of nanoseconds and up to 2⁶⁴ seconds.
-/

namespace Sidecar

structure Timespan where
  seconds : UInt64
  nanos : UInt32
  nanos_lt : nanos.toNat < 1000000000 := by decide
  deriving DecidableEq

namespace Timespan

def millis (t : Timespan) : Nat :=
  t.seconds.toNat * 1000 + t.nanos.toNat / 1000000

/-- A number of units, with as many decimal places as it needs of the `places` that `fraction`
has. -/
def decimalText (whole fraction places : Nat) : String :=
  let digits := (Nat.toDigits 10 (Nat.pow 10 places + fraction)).drop 1
  let digits := (digits.reverse.dropWhile (· = '0')).reverse
  toString whole ++ if digits.isEmpty then "" else "." ++ String.ofList digits

/-- The length in the largest unit that is not longer, of seconds, milliseconds, microseconds and
nanoseconds. -/
def text (t : Timespan) : String :=
  let nanos := t.nanos.toNat
  if 0 < t.seconds.toNat then decimalText t.seconds.toNat nanos 9 ++ "s"
  else if 1000000 ≤ nanos then decimalText (nanos / 1000000) (nanos % 1000000) 6 ++ "ms"
  else if 1000 ≤ nanos then decimalText (nanos / 1000) (nanos % 1000) 3 ++ "µs"
  else toString nanos ++ "ns"

def ofMillis (ms : UInt64) : Timespan where
  seconds := UInt64.ofNat (ms.toNat / 1000)
  nanos := UInt32.ofNat (ms.toNat % 1000 * 1000000)
  nanos_lt := by
    rw [UInt32.toNat_ofNat_of_lt' (show ms.toNat % 1000 * 1000000 < 2 ^ 32 by omega)]
    omega

/-- Any number of milliseconds that 64 bits can hold is got back. -/
theorem millis_ofMillis (ms : UInt64) : (ofMillis ms).millis = ms.toNat := by
  have := ms.toNat_lt
  simp only [millis, ofMillis]
  rw [UInt32.toNat_ofNat_of_lt' (show ms.toNat % 1000 * 1000000 < 2 ^ 32 by omega),
    UInt64.toNat_ofNat_of_lt' (show ms.toNat / 1000 < 2 ^ 64 by omega)]
  omega

end Timespan

end Sidecar
