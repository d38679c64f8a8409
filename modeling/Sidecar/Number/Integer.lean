/-!
# Integers in decimal text

An integer is written as digits of ASCII, with a sign in front if need be. A plus sign is always
allowed, a minus sign where the type has negative numbers.
-/

namespace Sidecar.Integer

/-- The number that a text of one or more digits spells. -/
def digits? (cs : List Char) : Option Nat :=
  if cs.isEmpty || !cs.all Char.isDigit then none
  else some (cs.foldl (fun n c => n * 10 + (c.toNat - 48)) 0)

/-- Reads a number below `bound`. -/
def unsigned? (bound : Nat) (cs : List Char) : Option Nat :=
  let body := match cs with
    | '+' :: rest => rest
    | cs => cs
  (digits? body).filter (· < bound)

/-- Reads a number of at least `-bound` and below `bound`. -/
def signed? (bound : Nat) : List Char → Option Int
  | '-' :: rest => ((digits? rest).filter (· ≤ bound)).map fun n => -(n : Int)
  | cs => (unsigned? bound cs).map Int.ofNat

end Sidecar.Integer
