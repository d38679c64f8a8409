import Sidecar.Number.Binary64

/-!
# Shortest decimal text of a double

Of all decimal numbers that round to a given double, the written one has the fewest digits, and of
those it is the nearest. The reals that round to `m · 2 ^ q` form an interval whose ends belong to
it exactly if `m` is even; grids of powers of ten are tried from the coarse to the fine, and on each
grid only the two neighbours of the number can lie in the interval.
-/

namespace Sidecar.Binary64

/-- The interval of the reals that round to a number `m · 2 ^ q`, in quarters of `2 ^ q`. -/
structure Interval where
  low : Nat
  middle : Nat
  high : Nat
  closed : Bool
  place : Int

/-- The interval of a finite number other than zero. Below a power of two the doubles lie twice as
dense as above it. -/
def interval (x : Binary64) : Interval :=
  let (m, q) := x.mantissaExponent
  let gap := if m = 0x10000000000000 && -1074 < q then 1 else 2
  ⟨4 * m - gap, 4 * m, 4 * m + 2, m % 2 = 0, q - 2⟩

/-- A number of quarters and a number of grid units, brought to one scale. -/
def Interval.scaled (i : Interval) (grid : Int) (quarters units : Nat) : Nat × Nat :=
  (quarters * Nat.pow 2 i.place.toNat * Nat.pow 10 (-grid).toNat,
   units * Nat.pow 10 grid.toNat * Nat.pow 2 (-i.place).toNat)

def Interval.holds (i : Interval) (grid : Int) (units : Nat) : Bool :=
  let (low, point) := i.scaled grid i.low units
  let (high, _) := i.scaled grid i.high units
  if i.closed then low ≤ point && point ≤ high else low < point && point < high

/-- The point of a grid that is written for the number, if one of its two neighbours rounds to it:
the nearer one, and on a tie the even one. -/
def Interval.onGrid? (i : Interval) (grid : Int) : Option Nat :=
  let (middle, unit) := i.scaled grid i.middle 1
  let below := middle / unit
  match i.holds grid below, i.holds grid (below + 1) with
  | true, true => some (roundDiv middle unit)
  | true, false => some below
  | false, true => some (below + 1)
  | false, false => none

/-- Tries at most `count` grids, each ten times finer than the one before. -/
def Interval.search (i : Interval) : (count : Nat) → (grid : Int) → Nat × Int
  | 0, grid => (0, grid)
  | count + 1, grid =>
    match i.onGrid? grid with
    | some units => (units, grid)
    | none => i.search count (grid - 1)

/-- The digits and the decimal exponent of a finite number other than zero. Twenty grids reach
seventeen digits, which always suffice. -/
def shortest (x : Binary64) : Nat × Int :=
  let (m, q) := x.mantissaExponent
  let start := ((m.log2 : Int) + q) * 30103 / 100000 + 2
  x.interval.search 20 start

/-- The text of a finite number: positional from `1e-5` up to, not including, `1e16`, always with a
point there; scientific elsewhere. -/
def text (x : Binary64) : String :=
  let sign := if x.isNegative then "-" else ""
  if x.magnitude = 0 then sign ++ "0.0"
  else
    let (units, exponent) := x.shortest
    let digits := Nat.toDigits 10 units
    let length : Int := digits.length
    let point := length + exponent
    let body : List Char :=
      if 0 ≤ exponent && point ≤ 16 then
        digits ++ List.replicate exponent.toNat '0' ++ ['.', '0']
      else if 0 < point && point ≤ 16 then
        digits.take point.toNat ++ '.' :: digits.drop point.toNat
      else if -5 < point && point ≤ 0 then
        '0' :: '.' :: List.replicate (-point).toNat '0' ++ digits
      else
        let mantissa := digits.take 1 ++ (if length = 1 then [] else '.' :: digits.drop 1)
        mantissa ++ 'e' :: (toString (point - 1)).toList
    sign ++ String.ofList body

end Sidecar.Binary64
