import MetricFeed.Settings.Form
import MetricFeed.Yaml.Node

/-!
# Scalars

A scalar is a text, and a plain one may also be read as nothing, a truth value, a whole number or a real number.
Which of these is asked for decides; only `guess` finds out for itself what a scalar is.
-/

namespace MetricFeed.Yaml

/-! ### Words -/

def isNullWord (s : String) : Bool :=
  s == "null" || s == "Null" || s == "NULL" || s == "~"

def truthWord? (s : String) : Option Bool :=
  if s == "true" || s == "True" || s == "TRUE" then some true
  else if s == "false" || s == "False" || s == "FALSE" then some false
  else none

/-! ### Whole numbers -/

/-- Digits of a base, at least one. -/
def digits? (base : Nat) (cs : List Char) : Option Nat :=
  if cs.isEmpty then none
  else cs.foldlM (fun n c => (Text.hexDigit? c).bind fun d => if d < base then some (n * base + d) else none) 0

/-- More than one digit of which the first is a zero: a text of digits, not a number. -/
def isPadded (cs : List Char) : Bool :=
  match cs with
  | '0' :: c :: cs => (c :: cs).all Char.isDigit
  | _ => false

/-- The size of a whole number without a sign: decimal, or of the base that `0x`, `0o` or `0b` announces. -/
def wholeSize? (cs : List Char) : Option Nat :=
  match cs with
  | '0' :: 'x' :: ds => digits? 16 ds
  | '0' :: 'o' :: ds => digits? 8 ds
  | '0' :: 'b' :: ds => digits? 2 ds
  | cs => if isPadded cs then none else digits? 10 cs

/-- A whole number that is not negative. -/
def natural? (s : String) : Option Nat :=
  match s.toList with
  | '+' :: cs => wholeSize? cs
  | cs => wholeSize? cs

/-- A whole number with a minus sign, without the sign. -/
def negative? (s : String) : Option Nat :=
  match s.toList with
  | '-' :: cs => wholeSize? cs
  | _ => none

/-- Whole numbers by the width they take; wider ones are not read as whole numbers at all. -/
inductive Whole where
  /-- Of 64 bits, and no zero with a sign. -/
  | natural (n : Nat)
  /-- Of 64 bits, below zero. -/
  | negative
  /-- Of 128 bits. -/
  | wide

def whole? (s : String) : Option Whole :=
  match natural? s, negative? s with
  | some n, _ =>
    if n ≤ 0xFFFFFFFFFFFFFFFF then some (.natural n)
    else if n ≤ 0xFFFFFFFFFFFFFFFFFFFFFFFFFFFFFFFF then some .wide
    else none
  | none, some n =>
    if n = 0 then some (.natural 0)
    else if n ≤ 0x8000000000000000 then some .negative
    else if n ≤ 0x80000000000000000000000000000000 then some .wide
    else none
  | none, none => none

/-! ### Real numbers -/

/-- A real number; an infinity and NaN have words of their own. -/
def real? (s : String) : Option Float :=
  let size := match s.toList with
    | '+' :: cs => cs
    | cs => cs
  let infinity := fun (front : String) => [".inf", ".Inf", ".INF"].map (front ++ ·)
  if (infinity "").contains (String.ofList size) then some (Float.ofBits 0x7FF0000000000000)
  else if (infinity "-").contains s then some (Float.ofBits 0xFFF0000000000000)
  else if [".nan", ".NaN", ".NAN"].contains s then some (Float.ofBits 0x7FF8000000000000)
  else if size.length < s.length && (size.head? = some '+' || size.head? = some '-') then none
  else (Number.readChars? size).filter Float.isFinite

/-! ### The type of a scalar -/

/-- What a scalar is when nothing is asked for. -/
inductive Guess where
  | null
  | bool (b : Bool)
  | whole (n : Whole)
  | real (v : Float)
  | text

/-- What a plain scalar without a tag is. -/
def guess (s : String) : Guess :=
  if s.isEmpty || isNullWord s then .null
  else match truthWord? s with
    | some b => .bool b
    | none => match whole? s with
      | some n => .whole n
      | none =>
        if isPadded (Number.takeSign s.toList).2 then .text
        else match real? s with
          | some v => .real v
          | none => .text

/-- The tag of a type of the core schema. -/
def coreTag (name : String) : Option Tag :=
  some (Text.bytes ("tag:yaml.org,2002:" ++ name))

/-- A tag of the document's own begins with an exclamation mark. -/
def isOwnTag (tag : Option Tag) : Bool :=
  tag.any fun t => t.head? = some 0x21

/-- A tag of the document's own that can be read as a name. -/
def isNamedTag (tag : Option Tag) : Bool :=
  isOwnTag tag && tag.any fun t => (Text.ofBytes? t).isSome

/-- What a scalar is whose tag names no type of the document's own; none if its text does not fit a tag of the core
schema. -/
def guessTagged (style : Style) (tag : Option Tag) (s : String) : Option Guess :=
  if tag = coreTag "bool" then (truthWord? s).map .bool
  else if tag = coreTag "int" then (whole? s).map .whole
  else if tag = coreTag "float" then (real? s).map .real
  else if tag = coreTag "null" then if isNullWord s then some .null else none
  else if style = .plain && (tag = none || isOwnTag tag) then some (guess s)
  else some .text

end MetricFeed.Yaml
