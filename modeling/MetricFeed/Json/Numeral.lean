import MetricFeed.Json.Value

/-!
# JSON numerals

A numeral is a sign, whole digits, fraction digits and an exponent.  A numeral with neither fraction nor exponent
that fits 64 bits is that whole number.  Any other is a double: the leading digits that fit 64 bits are rounded to
a double, which is then multiplied or divided by a power of ten.
-/

namespace MetricFeed.Json

structure Numeral where
  negative : Bool
  whole : List Char
  fraction : List Char
  /-- Sign and digits. -/
  exponent : Option (Bool × List Char)

namespace Numeral

/-- The largest significand. -/
def maxSignificand : Nat := 0xFFFFFFFFFFFFFFFF

/-- A digit put at the end of a significand, if it fits. -/
def append? (n : Nat) (c : Char) : Option Nat :=
  let m := n * 10 + (c.toNat - 48)
  if m ≤ maxSignificand then some m else none

/-- The significand of whole digits, and how many digits did not fit. -/
def ofWhole : Nat → List Char → Nat × Nat
  | n, [] => (n, 0)
  | n, c :: cs => match append? n c with
    | some m => ofWhole m cs
    | none => (n, cs.length + 1)

/-- A significand with fraction digits put at its end as long as they fit, and how many did. -/
def ofFraction : Nat → List Char → Nat × Nat
  | n, [] => (n, 0)
  | n, c :: cs => match append? n c with
    | some m => let r := ofFraction m cs; (r.1, r.2 + 1)
    | none => (n, 0)

def powerOfTen (n : Nat) : Float :=
  Float.ofScientific 1 false n

/-- `v` times `10 ^ e`, in steps of at most 308 powers; nothing if that is infinite. -/
def scale? : Nat → Float → Int → Option Float
  | 0, v, _ => some v
  | fuel + 1, v, e =>
    if e.natAbs ≤ 308 then
      if 0 ≤ e then
        let r := v * powerOfTen e.natAbs
        if r.isInf then none else some r
      else some (v / powerOfTen e.natAbs)
    else if v == 0 then some v
    else if 0 ≤ e then none
    else scale? fuel (v / powerOfTen 308) (e + 308)

/-- The largest exponent that is counted. -/
def maxExponent : Nat := 0x7FFFFFFF

/-- The size of a numeral as a double; a numeral that is too large has none. -/
def size? (x : Numeral) : Option Float :=
  let (n, dropped) := ofWhole 0 x.whole
  let (n, places) := ofFraction n x.fraction
  let (neg, power) := match x.exponent with
    | some (neg, ds) => (neg, Number.digitsValue ds)
    | none => (false, 0)
  if maxExponent < power then
    if n ≠ 0 && !neg then none else some (Float.ofNat 0)
  else
    scale? 4 (Float.ofNat n) ((dropped : Int) - places + (if neg then -(power : Int) else power))

/-- The numeral as a whole number of 64 bits. -/
def integer? (x : Numeral) : Option JsonNumber :=
  let n := Number.digitsValue x.whole
  if !x.fraction.isEmpty || x.exponent.isSome then none
  else if x.negative then
    if n ≠ 0 && n ≤ 0x8000000000000000 then some (.negative (Int64.ofInt (-n))) else none
  else if n ≤ maxSignificand then some (.natural (UInt64.ofNat n))
  else none

def number? (x : Numeral) : Option JsonNumber :=
  match x.integer? with
  | some n => some n
  | none => x.size?.map fun v => .real (if x.negative then -v else v)

/-! ### Taking a numeral off the front of a text -/

/-- Whole digits: a zero alone, or digits that do not start with zero. -/
def takeWhole? (cs : List Char) : Option (List Char × List Char) :=
  match Number.takeDigits cs with
  | ([], _) => none
  | (['0'], rest) => some (['0'], rest)
  | ('0' :: _, _) => none
  | (ds, rest) => some (ds, rest)

/-- A point and at least one digit, or nothing. -/
def takeFraction? : List Char → Option (List Char × List Char)
  | '.' :: cs => match Number.takeDigits cs with
    | ([], _) => none
    | (ds, rest) => some (ds, rest)
  | cs => some ([], cs)

/-- An exponent with at least one digit, or nothing. -/
def takeExponent? : List Char → Option (Option (Bool × List Char) × List Char)
  | c :: cs =>
    if c = 'e' || c = 'E' then
      let (neg, cs) := Number.takeSign cs
      match Number.takeDigits cs with
      | ([], _) => none
      | (ds, rest) => some (some (neg, ds), rest)
    else some (none, c :: cs)
  | [] => some (none, [])

def take? (cs : List Char) : Option (Numeral × List Char) := do
  let (negative, cs) := match cs with
    | '-' :: r => (true, r)
    | r => (false, r)
  let (whole, cs) ← takeWhole? cs
  let (fraction, cs) ← takeFraction? cs
  let (exponent, cs) ← takeExponent? cs
  return (⟨negative, whole, fraction, exponent⟩, cs)

end Numeral

end MetricFeed.Json
