import MetricFeed.Number.Binary
import MetricFeed.Number.Decimal

/-!
# Writing a number

A `Layout` settles how the figures of a number become text: which exponents are written positionally, whether a
whole number shows a fraction, how an exponent looks, and the words for what is no number.
-/

namespace MetricFeed.Number

structure Layout where
  /-- The figures chosen for a positive finite value. -/
  figures : Dyadic → Figures
  /-- The leading exponents that are written positionally. -/
  positional : Int → Bool
  /-- Put after a positional number that has no fraction. -/
  wholeEnd : List Char
  /-- The fewest figures of a written exponent. -/
  exponentWidth : Nat
  nan : String

namespace Layout

/-- The figures as characters, without zeros at the end. -/
def trimZeros (cs : List Char) : List Char :=
  (cs.reverse.dropWhile (· = '0')).reverse

/-- The digits `cs`, the first of which stands at `10 ^ lead`, in positional notation. -/
def positionalText (wholeEnd cs : List Char) (lead : Int) : List Char :=
  if lead < 0 then '0' :: '.' :: (List.replicate ((-lead).toNat - 1) '0' ++ cs)
  else
    let whole := lead.toNat + 1
    if cs.length ≤ whole then cs ++ List.replicate (whole - cs.length) '0' ++ wholeEnd
    else cs.take whole ++ '.' :: cs.drop whole

def exponentText (width : Nat) (lead : Int) : List Char :=
  let cs := Nat.toDigits 10 lead.natAbs
  'e' :: (if lead < 0 then '-' else '+') :: (List.replicate (width - cs.length) '0' ++ cs)

def scientificText (width : Nat) (cs : List Char) (lead : Int) : List Char :=
  cs.take 1 ++ (if cs.length ≤ 1 then [] else '.' :: cs.drop 1) ++ exponentText width lead

/-- A positive number by its figures. -/
def figuresText (l : Layout) (f : Figures) : List Char :=
  let cs := trimZeros (Nat.toDigits 10 f.coefficient)
  if l.positional f.lead then positionalText l.wholeEnd cs f.lead else scientificText l.exponentWidth cs f.lead

/-- The text of a number that is not NaN, without its sign. -/
def sizeText (l : Layout) (v : Float) : List Char :=
  if v.isInf then ['i', 'n', 'f']
  else
    let d := magnitude v
    if d.mantissa = 0 then '0' :: l.wholeEnd else l.figuresText (l.figures d)

def text (l : Layout) (v : Float) : String :=
  if v.isNaN then l.nan
  else String.ofList (if isNegative v then '-' :: l.sizeText v else l.sizeText v)

end Layout

end MetricFeed.Number
