import MetricFeed.Number.Reading
import MetricFeed.Number.Shortest
import MetricFeed.Number.Layout

/-!
# JSON values

A value is kept with its entries in the order of the document, repeated keys included.  A string that holds half of
a surrogate pair and a number beyond the range of a double have no value of their own; they stand as `none` and
matter only to a reader that asks for them.
-/

namespace MetricFeed

/-- A whole number of 64 bits, or else a double. -/
inductive JsonNumber where
  | natural (n : UInt64)
  | negative (n : Int64)
  | real (v : Float)

inductive Json where
  | null
  | bool (b : Bool)
  | number (n : Option JsonNumber)
  | string (s : Option String)
  | array (items : List Json)
  | object (entries : List (Option String × Json))

namespace JsonNumber

/-- A double in the fewest figures that read back, ties to even, with a fraction always; an exponent with its sign
below `1e-5` and from `1e16` on. -/
def layout : Number.Layout where
  figures := Number.shortest .toEven
  positional e := -5 ≤ e && e < 16
  wholeEnd := ['.', '0']
  exponentWidth := 0
  nan := "null"

def text : JsonNumber → String
  | .natural n => toString n.toNat
  | .negative n => toString n.toInt
  | .real v => layout.text v

def toFloat : JsonNumber → Float
  | .natural n => Float.ofNat n.toNat
  | .negative n => -(Float.ofNat n.toInt.natAbs)
  | .real v => v

end JsonNumber

namespace Json

def text? : Json → Option String
  | .string s => s
  | _ => none

def number? : Json → Option JsonNumber
  | .number n => n
  | _ => none

def bool? : Json → Option Bool
  | .bool b => some b
  | _ => none

/-- A number of whatever kind as a double. -/
def float? (j : Json) : Option Float :=
  j.number?.map JsonNumber.toFloat

def items? : Json → Option (List Json)
  | .array items => some items
  | _ => none

/-- `null` is no value. -/
def optional? {α : Type} (read : Json → Option α) : Json → Option (Option α)
  | .null => some none
  | j => (read j).map some

/-- The entries of a record with the field names `names`: the entries of an object in their order, or the items of
an array in the order of the names.  The items beyond the last name have none. -/
def entries? (names : List String) : Json → Option (List (Option String × Json))
  | .object entries => some entries
  | .array items => some ((names.map some ++ List.replicate (items.length - names.length) none).zip items)
  | _ => none

end Json

end MetricFeed
