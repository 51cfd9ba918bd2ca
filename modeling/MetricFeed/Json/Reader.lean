import MetricFeed.Json.Literal
import MetricFeed.Json.Numeral

/-!
# Reading JSON

`read?` reads a document that consists of one value.  Each function takes a value off the front of a text and gives
what follows it; the first argument bounds the number of steps, and the length of the text is enough.
-/

namespace MetricFeed.Json

/-- Blanks between the parts of a document. -/
def isSpace (c : Char) : Bool :=
  c == ' ' || c == '\n' || c == '\t' || c == '\r'

def skip (cs : List Char) : List Char :=
  cs.dropWhile isSpace

/-- A string with its opening quote taken off. -/
def takeText? (cs : List Char) : Option (Option String × List Char) :=
  (Literal.take? [] cs).map fun r => (Literal.text? r.1, r.2)

/-- A key and the colon after it. -/
def takeKey? (cs : List Char) : Option (Option String × List Char) :=
  match cs with
  | '"' :: cs => do
    let (key, cs) ← takeText? cs
    match skip cs with
    | ':' :: cs => some (key, cs)
    | _ => none
  | _ => none

mutual

def takeValue? : Nat → List Char → Option (Json × List Char)
  | 0, _ => none
  | fuel + 1, cs =>
    match skip cs with
    | 'n' :: 'u' :: 'l' :: 'l' :: cs => some (.null, cs)
    | 't' :: 'r' :: 'u' :: 'e' :: cs => some (.bool true, cs)
    | 'f' :: 'a' :: 'l' :: 's' :: 'e' :: cs => some (.bool false, cs)
    | '"' :: cs => (takeText? cs).map fun r => (.string r.1, r.2)
    | '[' :: cs => match skip cs with
      | ']' :: cs => some (.array [], cs)
      | cs => takeItems? fuel [] cs
    | '\x7b' :: cs => match skip cs with
      | '\x7d' :: cs => some (.object [], cs)
      | cs => takeEntries? fuel [] cs
    | cs => (Numeral.take? cs).map fun r => (.number r.1.number?, r.2)

/-- The items of an array up to its end; those already read stand in `done`, newest first. -/
def takeItems? : Nat → List Json → List Char → Option (Json × List Char)
  | 0, _, _ => none
  | fuel + 1, done, cs => do
    let (item, cs) ← takeValue? fuel cs
    match skip cs with
    | ',' :: cs => takeItems? fuel (item :: done) cs
    | ']' :: cs => some (.array (item :: done).reverse, cs)
    | _ => none

/-- The entries of an object up to its end; those already read stand in `done`, newest first. -/
def takeEntries? : Nat → List (Option String × Json) → List Char → Option (Json × List Char)
  | 0, _, _ => none
  | fuel + 1, done, cs => do
    let (key, cs) ← takeKey? (skip cs)
    let (value, cs) ← takeValue? fuel cs
    match skip cs with
    | ',' :: cs => takeEntries? fuel ((key, value) :: done) cs
    | '\x7d' :: cs => some (.object ((key, value) :: done).reverse, cs)
    | _ => none

end

/-- The value a document consists of. -/
def read? (s : String) : Option Json :=
  match takeValue? (s.length + 1) s.toList with
  | some (value, rest) => if (skip rest).isEmpty then some value else none
  | none => none

end MetricFeed.Json
