import MetricFeed.Text.Blank

/-!
# Reading a number

A decimal numeral has an optional sign, digits with an optional point (at least one digit in all) and an optional
exponent; `inf`, `infinity` and `nan` are read in any case.  The value is rounded correctly to a double; a size
beyond the largest double reads as infinity.
-/

namespace MetricFeed.Number

/-- The double nearest to `m * 10 ^ e`.  Exponents far outside the range of a double are settled without computing
the power. -/
def ofDecimal (m : Nat) (e : Int) : Float :=
  let lead := e + (Nat.toDigits 10 m).length
  if m = 0 || lead < -400 then Float.ofScientific 0 false 0
  else if 400 < lead then Float.ofBits 0x7FF0000000000000
  else Float.ofScientific m (e < 0) e.natAbs

/-- The digits at the front, and what follows them. -/
def takeDigits (cs : List Char) : List Char × List Char :=
  (cs.takeWhile Char.isDigit, cs.dropWhile Char.isDigit)

def digitsValue (cs : List Char) : Nat :=
  Nat.ofDigitChars 10 cs 0

/-- A sign at the front, and what follows it. -/
def takeSign : List Char → Bool × List Char
  | '-' :: cs => (true, cs)
  | '+' :: cs => (false, cs)
  | cs => (false, cs)

/-- What follows the mantissa: nothing, or `e` and a whole number. -/
def readExponent? : List Char → Option Int
  | [] => some 0
  | c :: cs =>
    if c = 'e' || c = 'E' then
      let (neg, ds) := takeSign cs
      if ds.isEmpty || !ds.all Char.isDigit then none
      else some (if neg then -(digitsValue ds : Int) else digitsValue ds)
    else none

/-- A numeral without its sign. -/
def readUnsigned? (cs : List Char) : Option Float :=
  let (whole, rest) := takeDigits cs
  let (fraction, rest) := match rest with
    | '.' :: r => takeDigits r
    | r => ([], r)
  if whole.isEmpty && fraction.isEmpty then none
  else (readExponent? rest).map fun e => ofDecimal (digitsValue (whole ++ fraction)) (e - fraction.length)

/-- A numeral or one of the words for infinity and NaN. -/
def readChars? (cs : List Char) : Option Float :=
  let (neg, rest) := takeSign cs
  let size? :=
    let word := String.ofList (rest.map Char.toLower)
    if word = "inf" || word = "infinity" then some (Float.ofBits 0x7FF0000000000000)
    else if word = "nan" then some (Float.ofBits 0x7FF8000000000000)
    else readUnsigned? rest
  size?.map fun v => if neg then -v else v

def read? (s : String) : Option Float :=
  readChars? s.toList

end MetricFeed.Number
