import MetricFeed.Number.Layout
import MetricFeed.Number.Reading
import MetricFeed.Number.Shortest
import MetricFeed.Sample

/-!
# The text of a value

A gauge is written with fifteen significant figures (`general`), a rate with the fewest figures that read back
(`plain`), a counter as a whole number.  `inverted` writes the rest to a hundred of a value given as text.
-/

namespace MetricFeed

/-- Fifteen figures rounded to nearest even, zeros at the end of a fraction left out; an exponent of two figures
or more below `1e-4` and from `1e15` on. -/
def generalLayout : Number.Layout where
  figures d := Number.significant .toEven 15 d.num d.den
  positional e := -4 ≤ e && e < 15
  wholeEnd := []
  exponentWidth := 2
  nan := "nan"

/-- The fewest figures that read back, ties upward, never with an exponent. -/
def plainLayout : Number.Layout where
  figures := Number.shortest .up
  positional _ := true
  wholeEnd := []
  exponentWidth := 0
  nan := "NaN"

def general (v : Float) : String :=
  generalLayout.text v

def plain (v : Float) : String :=
  plainLayout.text v

/-- The text of a value on the wire; a rate stands for a value that is not a gauge. -/
def Value.text (v : Value) (rate : Option Float) : String :=
  match v, rate with
  | .gauge x, _ => general x
  | _, some r => plain r
  | .counter n, none => toString n.toNat
  | .derive n, none => toString n.toInt
  | .absolute n, none => toString n.toNat

/-- The number a text denotes, blanks around it ignored; a text that denotes none reads as zero. -/
def readValue (s : String) : Float :=
  (Number.read? (Text.trim s)).getD (Float.ofBits 0)

/-- A hundred less the value of the text. -/
def inverted (s : String) : String :=
  general (100 - readValue s)

end MetricFeed
