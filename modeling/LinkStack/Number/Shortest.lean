import LinkStack.Number.Binary

/-!
Decimal text of wide floating-point numbers.

Among the decimals that are nearer to a number than to any other number, the
text is one with the fewest digits, and of those the nearest; a decimal half way
between two numbers belongs to the one with the even significand. On a grid of
decimals `c · 10 ^ g` only the two neighbours of the number have to be looked
at, so the text is found by going from coarse grids to fine ones. All
comparisons are between whole numbers.
-/

namespace LinkStack.Number

/-- The numbers whose nearest wide number is `m · 2 ^ e`, and that number: the
bounds and the value in units of `2 ^ (e - 2)`. The gap below a power of two is
half as wide as the one above. -/
structure Interval where
  low : Nat
  value : Nat
  high : Nat
  exponent : Int
  closed : Bool

def Interval.of (m : Nat) (e : Int) : Interval where
  low := if m = power 2 double.fractionBits ∧ double.minExponent < e then 4 * m - 1 else 4 * m - 2
  value := 4 * m
  high := 4 * m + 2
  exponent := e - 2
  closed := m % 2 = 0

/-- The grid point of `10 ^ g` that is in the interval and nearest to its value,
if there is one. Of two that are equally near it is the larger. -/
def Interval.pointOn (i : Interval) (g : Int) : Option Nat :=
  let scale := power 2 i.exponent.toNat * power 10 (-g).toNat
  let step := power 10 g.toNat * power 2 (-i.exponent).toNat
  let inside (c : Nat) : Bool :=
    if i.closed then i.low * scale ≤ c * step && c * step ≤ i.high * scale
    else i.low * scale < c * step && c * step < i.high * scale
  let below := i.value * scale / step
  let rest := i.value * scale % step
  match inside below, inside (below + 1) with
  | true, true => some (if step ≤ 2 * rest then below + 1 else below)
  | true, false => some below
  | false, true => some (below + 1)
  | false, false => none

/-- The shortest decimal `c · 10 ^ g` that stands for `m · 2 ^ e`, where `m` is
not zero. The search starts above the number and needs no more than 17 digits. -/
def shortest (m : Nat) (e : Int) : Nat × Int :=
  let top := ((m.log2 : Int) + 1 + e) * 30103 / 100000 + 2
  let grids := (List.range 25).map fun (n : Nat) => top - (n : Int)
  (grids.findSome? fun g => ((Interval.of m e).pointOn g).map fun c => (c, g)).getD (0, 0)

/-- A decimal `c · 10 ^ g` without an exponent. -/
def positional (c : Nat) (g : Int) : List Char :=
  let digits := Nat.toDigits 10 c
  if 0 ≤ g then digits ++ List.replicate g.toNat '0'
  else
    let places := (-g).toNat
    let padded := List.replicate (places + 1 - digits.length) '0' ++ digits
    padded.take (padded.length - places) ++ '.' :: padded.drop (padded.length - places)

/-- The text of what a pattern stands for. -/
def Datum.render : Datum → String
  | .nan _ _ => "NaN"
  | .infinite negative => if negative then "-inf" else "inf"
  | .finite negative m e =>
    let digits := if m = 0 then ['0'] else let (c, g) := shortest m e; positional c g
    String.ofList (if negative then '-' :: digits else digits)

end LinkStack.Number
