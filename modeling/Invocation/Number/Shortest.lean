/-
# The fewest digits that read back

Every finite number other than zero owns an interval of reals that round to it:
half a unit in the last place to each side, a quarter below a power of two, the
ends included when the significand is even. Its shortest decimal is the point of
that interval on the coarsest decimal grid `10 ^ k` that has one; of two such
points the nearer to the number, and the upper one when they are equally near.
The search goes down from the first grid that is too coarse for the number.

Key definitions: `Binary64.Interval`, `Binary64.interval`, `Binary64.topGrid`,
`Binary64.shortest`.
-/
import Invocation.Number.Binary64

namespace Invocation
namespace Binary64

/-- A decimal without sign: `coefficient * 10 ^ exponent`. -/
structure Decimal where
  coefficient : Nat
  exponent : Int
deriving DecidableEq

/-- The reals that round to a number, and the number itself, as numerators over one denominator. -/
structure Interval where
  low : Nat
  value : Nat
  high : Nat
  denominator : Nat
  closed : Bool

/-- The interval of a finite number's magnitude. The gap below a power of two is half the gap
above it, except at the bottom of the range. -/
def interval (x : Binary64) : Interval :=
  let m := x.significand
  let below := if x.fraction = 0 ∧ 1 < x.exponentField then 1 else 2
  let unit := 1 <<< x.scale.toNat
  { low := (4 * m - below) * unit
    value := 4 * m * unit
    high := (4 * m + 2) * unit
    denominator := 4 <<< (-x.scale).toNat
    closed := m % 2 == 0 }

namespace Interval

/-- Whether `numerator / denominator` lies in the interval, for a numerator scaled by `t`. -/
def holds (i : Interval) (t numerator : Nat) : Bool :=
  if i.closed then decide (i.low * t ≤ numerator ∧ numerator ≤ i.high * t)
  else decide (i.low * t < numerator ∧ numerator < i.high * t)

/-- The best point of the interval on the grid `10 ^ k`: one of the two neighbours of the value. -/
def onGrid (i : Interval) (k : Int) : Option Nat :=
  let t := Nat.pow 10 (-k).toNat
  let step := i.denominator * Nat.pow 10 k.toNat
  let c := i.value * t / step
  let lower := i.holds t (c * step)
  let upper := i.holds t ((c + 1) * step)
  if lower && upper then
    if 2 * i.value * t < (2 * c + 1) * step then some c else some (c + 1)
  else if lower then some c
  else if upper then some (c + 1)
  else none

/-- The first grid with a point of the interval, from `10 ^ k` on down. -/
def search (i : Interval) : Nat → Int → Decimal
  | 0, k => ⟨0, k⟩
  | n + 1, k =>
    match i.onGrid k with
    | some c => ⟨c, k⟩
    | none => search i n (k - 1)

end Interval

/-- A grid above every number that rounds to a finite one: these are below `2 ^ b` for the `b`
here, and `2 ^ b` is at most `10 ^ k` for the `k` given, since the logarithm of two is close
below 0.30103. -/
def topGrid (x : Binary64) : Int :=
  let b := (x.significand.log2 + 1 : Nat) + x.scale
  b * 30103 / 100000 + 1

/-- The shortest decimal of a finite magnitude. The grid at `topGrid` and all above it have no
point between zero and the numbers that round to this one; some 20 grids below it there is one
that does. -/
def shortest (x : Binary64) : Decimal :=
  if x.isZero then ⟨0, 0⟩ else x.interval.search 651 x.topGrid

end Binary64
end Invocation
