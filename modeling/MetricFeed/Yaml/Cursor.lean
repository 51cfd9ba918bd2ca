/-!
# Position in a YAML text

A cursor is what is left of a text, and where that begins: the number of bytes before it, its line and its column.
A column is counted in characters.  A carriage return with the line feed after it is one line break.
-/

namespace MetricFeed.Yaml

structure Cursor where
  rest : List Char
  /-- Bytes of UTF-8 before it. -/
  index : Nat := 0
  line : Nat := 0
  column : Nat := 0

def isBreak (c : Char) : Bool :=
  c == '\n' || c == '\r' || c == '\u0085' || c == '\u2028' || c == '\u2029'

/-- A space or a tab. -/
def isGap (c : Char) : Bool :=
  c == ' ' || c == '\t'

/-- A gap, a line break or the end of the text. -/
def endsWord : Option Char → Bool
  | none => true
  | some c => isGap c || isBreak c

/-- A character of names: anchors, tag handles and directives. -/
def isNameChar (c : Char) : Bool :=
  c.isAlphanum || c == '_' || c == '-'

/-- The characters that a document may hold. -/
def isAllowed (c : Char) : Bool :=
  let n := c.toNat
  n == 0x09 || n == 0x0A || n == 0x0D || (0x20 ≤ n && n ≤ 0x7E) || n == 0x85 || (0xA0 ≤ n && n ≤ 0xFFFD) ||
    0x10000 ≤ n

namespace Cursor

def peek? (c : Cursor) : Option Char :=
  c.rest.head?

/-- The character `n` places ahead. -/
def ahead? (c : Cursor) (n : Nat) : Option Char :=
  c.rest[n]?

def step (c : Cursor) : Cursor :=
  match c.rest with
  | [] => c
  | x :: cs => { c with rest := cs, index := c.index + x.utf8Size, column := c.column + 1 }

def steps (c : Cursor) : Nat → Cursor
  | 0 => c
  | n + 1 => c.step.steps n

/-- A line break as text, and the cursor after it; no text where there is no break. -/
def takeBreak (c : Cursor) : List Char × Cursor :=
  match c.rest with
  | '\r' :: '\n' :: cs => (['\n'], { rest := cs, index := c.index + 2, line := c.line + 1, column := 0 })
  | x :: cs =>
    if isBreak x then
      (if x == '\u2028' || x == '\u2029' then [x] else ['\n'],
        { rest := cs, index := c.index + x.utf8Size, line := c.line + 1, column := 0 })
    else ([], c)
  | [] => ([], c)

/-- The characters at the front that satisfy `p`, and the cursor after them. -/
def takeWhile (c : Cursor) (p : Char → Bool) : List Char × Cursor :=
  let cs := c.rest.takeWhile p
  (cs, { c with
    rest := c.rest.drop cs.length
    index := c.index + (String.ofList cs).utf8ByteSize
    column := c.column + cs.length })

def skipGaps (c : Cursor) : Cursor :=
  (c.takeWhile isGap).2

/-- Past a comment, up to the end of the line. -/
def skipComment (c : Cursor) : Cursor :=
  if c.peek? = some '#' then (c.takeWhile fun x => !isBreak x).2 else c

/-- At a break or the end of the text. -/
def atLineEnd (c : Cursor) : Bool :=
  match c.peek? with
  | none => true
  | some x => isBreak x

/-- The end of the text closes the line it stands on. -/
def closeLine (c : Cursor) : Cursor :=
  if c.column = 0 then c else { c with line := c.line + 1, column := 0 }

/-- At a line that starts with the mark, three characters that stand alone. -/
def atMark (c : Cursor) (mark : Char) : Bool :=
  c.column == 0 && c.peek? = some mark && c.ahead? 1 = some mark && c.ahead? 2 = some mark && endsWord (c.ahead? 3)

/-- At a line that separates documents. -/
def atDocumentMark (c : Cursor) : Bool :=
  c.atMark '-' || c.atMark '.'

/-- Past gaps and a comment to the next line; nothing if the line goes on otherwise. -/
def endLine? (c : Cursor) : Option Cursor :=
  let c := c.skipGaps.skipComment
  if c.atLineEnd then some c.takeBreak.2 else none

end Cursor

end MetricFeed.Yaml
