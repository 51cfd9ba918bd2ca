import MetricFeed.Number.Binary
import MetricFeed.Number.Decimal

/-!
# The fewest figures that read back

The reals that round to a double form an interval around it, whose ends belong to it exactly when its mantissa is
even.  `shortest` takes the first count of figures for which one of the two neighbours of the value on that decimal
grid lies in the interval, and of two neighbours the nearer.
-/

namespace MetricFeed.Number

/-- The interval of reals that round to a double, as numerators over one denominator. -/
structure Interval where
  value : Nat
  low : Nat
  high : Nat
  den : Nat
  closed : Bool

namespace Interval

/-- In quarters of the last place: half a place to either side, but a quarter below a power of two, where the
doubles under it lie twice as close. -/
def around (d : Dyadic) : Interval :=
  let q : Dyadic := ⟨4 * d.mantissa, d.exponent - 2⟩
  let unit := Nat.pow 2 q.exponent.toNat
  let below := if d.mantissa = hiddenBit && d.exponent != -1074 then 1 else 2
  { value := q.num, low := q.num - below * unit, high := q.num + 2 * unit, den := q.den,
    closed := d.mantissa % 2 == 0 }

/-- The interval with every number multiplied by `10 ^ p`. -/
def scale (i : Interval) (p : Int) : Interval :=
  let up := Nat.pow 10 p.toNat
  { i with value := i.value * up, low := i.low * up, high := i.high * up, den := i.den * Nat.pow 10 (-p).toNat }

/-- The whole number `c` lies in the interval. -/
def holds (i : Interval) (c : Nat) : Bool :=
  if i.closed then i.low ≤ c * i.den && c * i.den ≤ i.high else i.low < c * i.den && c * i.den < i.high

/-- A neighbour of the value among the whole numbers that lies in the interval, the nearer if both do. -/
def neighbour? (tie : Tie) (i : Interval) : Option Nat :=
  let c := i.value / i.den
  match i.holds c, i.holds (c + 1) with
  | true, true => some (roundDiv tie i.value i.den)
  | true, false => some c
  | false, true => some (c + 1)
  | false, false => none

end Interval

/-- The figures of a positive double: as few as read back, and the nearest of those. -/
def shortest (tie : Tie) (d : Dyadic) : Figures :=
  let lead := leading d.num d.den
  let i := Interval.around d
  let found := (List.range 17).findSome? fun (n : Nat) =>
    ((i.scale ((n : Int) - lead)).neighbour? tie).map fun c =>
      if c = Nat.pow 10 (n + 1) then ⟨1, lead + 1⟩ else (⟨c, lead⟩ : Figures)
  found.getD (significant tie 17 d.num d.den)

end MetricFeed.Number
