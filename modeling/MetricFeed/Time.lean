/-!
# Time

A duration is a natural number of microseconds.  An instant is a reading of the monotonic clock, a whole number of
microseconds from an arbitrary start; no time has passed since an instant that lies ahead.
-/

namespace MetricFeed.Micros

def ofMillis (n : Nat) : Nat := n * 1000

def ofSeconds (n : Nat) : Nat := n * 1000000

/-- The duration from `start` to `now`. -/
def since (start now : Int) : Nat := (now - start).toNat

/-- The figures after the point of `part` out of `10 ^ places`, without zeros at the end. -/
def fractionText (places part : Nat) : List Char :=
  let cs := Nat.toDigits 10 part
  let padded := List.replicate (places - cs.length) '0' ++ cs
  let kept := (padded.reverse.dropWhile (· = '0')).reverse
  if kept.isEmpty then [] else '.' :: kept

/-- A duration in the largest unit of which it has at least one. -/
def text (d : Nat) : String :=
  if 1000000 ≤ d then toString (d / 1000000) ++ String.ofList (fractionText 6 (d % 1000000)) ++ "s"
  else if 1000 ≤ d then toString (d / 1000) ++ String.ofList (fractionText 3 (d % 1000)) ++ "ms"
  else if 1 ≤ d then toString d ++ "µs"
  else "0ns"

theorem since_self (t : Int) : since t t = 0 := by
  simp [since]

theorem since_mono {start a b : Int} (h : a ≤ b) : since start a ≤ since start b := by
  unfold since
  omega

end MetricFeed.Micros
