import MetricFeed.Json.Value
import MetricFeed.Text.Hex

/-!
# JSON strings

A string literal is a list of characters and escaped UTF-16 units.  Two units that form a surrogate pair are one
character; a unit that is half of a pair has no character, so the literal has no text.
-/

namespace MetricFeed.Json.Literal

inductive Piece where
  | char (c : Char)
  | unit (n : Nat)
  deriving DecidableEq

/-- The character of a short escape. -/
def shortEscape? : Char → Option Char
  | '"' => some '"'
  | '\\' => some '\\'
  | '/' => some '/'
  | 'b' => some '\x08'
  | 'f' => some '\x0C'
  | 'n' => some '\n'
  | 'r' => some '\r'
  | 't' => some '\t'
  | _ => none

/-- The pieces up to the closing quote, and what follows it.  The pieces read so far stand in `done`, newest first. -/
def take? (done : List Piece) : List Char → Option (List Piece × List Char)
  | '"' :: cs => some (done.reverse, cs)
  | '\\' :: 'u' :: a :: b :: c :: d :: cs =>
    match Text.ofHex? [a, b, c, d] with
    | some n => take? (.unit n :: done) cs
    | none => none
  | '\\' :: c :: cs =>
    match shortEscape? c with
    | some x => take? (.char x :: done) cs
    | none => none
  | c :: cs => if c.toNat < 0x20 || c = '\\' then none else take? (.char c :: done) cs
  | [] => none

/-- The first unit of a pair. -/
def isHigh (n : Nat) : Bool := 0xD800 ≤ n && n ≤ 0xDBFF

/-- The second unit of a pair. -/
def isLow (n : Nat) : Bool := 0xDC00 ≤ n && n ≤ 0xDFFF

def chars? : List Piece → Option (List Char)
  | [] => some []
  | .char c :: ps => (chars? ps).map (c :: ·)
  | .unit n :: .unit m :: ps =>
    if isHigh n then
      if isLow m then
        (chars? ps).map (Char.ofNat (0x10000 + (n - 0xD800) * 1024 + (m - 0xDC00)) :: ·)
      else none
    else if isLow n then none
    else (chars? (.unit m :: ps)).map (Char.ofNat n :: ·)
  | .unit n :: ps =>
    if isHigh n || isLow n then none else (chars? ps).map (Char.ofNat n :: ·)

def text? (ps : List Piece) : Option String :=
  (chars? ps).map String.ofList

end MetricFeed.Json.Literal
