import MetricFeed.Number.Rounding

/-!
# Decimal figures of a quotient

`leading` is the decimal exponent of a positive quotient, and `significant` rounds it to a given count of figures.
A rounding that reaches the next power of ten moves the leading exponent by one.
-/

namespace MetricFeed.Number

/-- The figures of a decimal number: `coefficient`, whose first figure stands at the power `10 ^ lead`. -/
structure Figures where
  coefficient : Nat
  lead : Int
  deriving DecidableEq

/-- How often `n` has to be multiplied by ten to reach `d`. -/
def stepsTo : Nat → Nat → Nat → Nat
  | 0, _, _ => 0
  | fuel + 1, n, d => if d ≤ n then 0 else stepsTo fuel (n * 10) d + 1

/-- The `e` with `10 ^ e ≤ n / d < 10 ^ (e + 1)`, for positive `n` and `d`. -/
def leading (n d : Nat) : Int :=
  if d ≤ n then ((Nat.toDigits 10 (n / d)).length - 1 : Nat) else -(stepsTo (d.log2 + 1) n d : Int)

/-- The quotient `n / d` times `10 ^ p`, as a quotient. -/
def shifted (n d : Nat) (p : Int) : Nat × Nat :=
  (n * Nat.pow 10 p.toNat, d * Nat.pow 10 (-p).toNat)

/-- The figures of `n / d` rounded to `count` of them. -/
def significant (tie : Tie) (count n d : Nat) : Figures :=
  let lead := leading n d
  let s := shifted n d (count - 1 - lead)
  let c := roundDiv tie s.1 s.2
  if c = Nat.pow 10 count then ⟨Nat.pow 10 (count - 1), lead + 1⟩ else ⟨c, lead⟩

end MetricFeed.Number
