import UrlQuery.Decimal.Binary

/-!
# The shortest decimal

Of the decimals that are read back as a given binary number, the one with the fewest digits, and
of those the nearest to the number.

The decimals that are read back lie in an interval around the number, half way to its neighbours
on either side; the ends belong to it when the significand is even. The decimals with a given
last place form a grid. On a grid that has a point in the interval, one of the two grid points
next to the number is in the interval too. So it is enough to go from coarse grids to fine ones and
to test those two. All of it is exact arithmetic on naturals.
-/

namespace UrlQuery.Decimal

/-- The number `digits · 10 ^ exponent`. -/
structure Numeral where
  digits : Nat
  exponent : Int
  deriving DecidableEq, Repr

/-- A positive number and the ends of its interval, over one denominator. -/
structure Interval where
  low : Nat
  value : Nat
  high : Nat
  denominator : Nat
  /-- The ends belong to the interval. -/
  closed : Bool
  deriving DecidableEq, Repr

namespace Interval

/-- The decimals that are read back as `significand · 2 ^ exponent`. -/
def ofBinary (significand : Nat) (exponent : Int) (atStep : Bool) : Interval :=
  let scale := Nat.pow 2 exponent.toNat
  { low := (4 * significand - if atStep then 1 else 2) * scale
    value := 4 * significand * scale
    high := (4 * significand + 2) * scale
    denominator := 4 * Nat.pow 2 (-exponent).toNat
    closed := significand % 2 = 0 }

/-- The fraction `num / den` lies in the interval. -/
def holds (i : Interval) (num den : Nat) : Bool :=
  let low := i.low * den
  let high := i.high * den
  let x := num * i.denominator
  if i.closed then low ≤ x && x ≤ high else low < x && x < high

/--
The point of the grid of multiples of `10 ^ exponent` that is in the interval and nearest to the
value, if there is one. Of two that are equally near it is the upper one.
-/
def onGrid? (i : Interval) (exponent : Int) : Option Numeral :=
  let up := Nat.pow 10 exponent.toNat
  let down := Nat.pow 10 (-exponent).toNat
  let below := i.value * down / (i.denominator * up)
  let above := below + 1
  let belowHolds := i.holds (below * up) down && below ≠ 0
  let aboveHolds := i.holds (above * up) down
  -- the value is nearer to the upper point if it lies at or above the middle of the two
  let upperIsNearer := (2 * below + 1) * up * i.denominator ≤ 2 * i.value * down
  if belowHolds && !(aboveHolds && upperIsNearer) then some ⟨below, exponent⟩
  else if aboveHolds then some ⟨above, exponent⟩
  else none

/-- The exponents of the grids that are tried, from 310 down, far below that of any number. -/
def gridExponents : List Int := (List.range 700).map fun i : Nat => 310 - (i : Int)

/-- The first grid with a point in the interval gives the shortest decimal. -/
def shortest (i : Interval) : Numeral :=
  (gridExponents.findSome? i.onGrid?).getD ⟨0, 0⟩

end Interval

/-- The shortest decimal that is read back as `significand · 2 ^ exponent`. -/
def shortest (significand : Nat) (exponent : Int) (atStep : Bool) : Numeral :=
  if significand = 0 then ⟨0, 0⟩
  else (Interval.ofBinary significand exponent atStep).shortest

end UrlQuery.Decimal
