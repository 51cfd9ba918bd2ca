/-!
# The exact value of a double

A finite double is a sign and a dyadic number `mantissa * 2 ^ exponent`, read off its 64 bits.  Everything that is
written from a double is computed from this value in natural numbers.
-/

namespace MetricFeed.Number

/-- The number `mantissa * 2 ^ exponent`. -/
structure Dyadic where
  mantissa : Nat
  exponent : Int
  deriving DecidableEq

namespace Dyadic

/-- The value is `num / den`. -/
def num (d : Dyadic) : Nat :=
  d.mantissa * Nat.pow 2 d.exponent.toNat

def den (d : Dyadic) : Nat :=
  Nat.pow 2 (-d.exponent).toNat

theorem den_pos (d : Dyadic) : 0 < d.den :=
  Nat.pow_pos (by decide)

end Dyadic

/-- The mantissa of a normal double has this bit, which is not stored. -/
def hiddenBit : Nat := 0x10000000000000

/-- The sign bit, which zero and NaN have too. -/
def isNegative (v : Float) : Bool :=
  v.toBits.toNat / 0x8000000000000000 == 1

/-- The value of `v` without its sign, for a finite `v`. -/
def magnitude (v : Float) : Dyadic :=
  let biased : Nat := v.toBits.toNat / hiddenBit % 0x800
  let fraction : Nat := v.toBits.toNat % hiddenBit
  if biased = 0 then ⟨fraction, -1074⟩ else ⟨hiddenBit + fraction, (biased : Int) - 1075⟩

end MetricFeed.Number
