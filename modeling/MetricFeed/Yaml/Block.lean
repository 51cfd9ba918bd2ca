import MetricFeed.Yaml.Cursor

/-!
# Block scalars

A literal scalar keeps its line breaks and a folded one turns a break between two lines of text into a space.  The
indentation is that of the first line of text or is given in the header, which may also say what becomes of the
breaks at the end.
-/

namespace MetricFeed.Yaml

/-- What becomes of the line breaks at the end of a block scalar. -/
inductive Chomping where
  | strip
  | clip
  | keep
  deriving DecidableEq

def chomping? : Option Char → Option Chomping
  | some '+' => some .keep
  | some '-' => some .strip
  | _ => none

/-- An indentation given as a digit; zero is refused. -/
def indentDigit? (c : Cursor) : Option (Option Nat × Cursor) :=
  match c.peek? with
  | some x =>
    if x.isDigit then (if x = '0' then none else some (some (x.toNat - 48), c.step)) else some (none, c)
  | none => some (none, c)

/-- Chomping and indentation, in either order. -/
def takeHeader? (c : Cursor) : Option (Chomping × Option Nat × Cursor) :=
  match chomping? c.peek? with
  | some chomping => (indentDigit? c.step).map fun r => (chomping, r.1, r.2)
  | none => match indentDigit? c with
    | none => none
    | some (none, c) => some (.clip, none, c)
    | some (some n, c) => match chomping? c.peek? with
      | some chomping => some (chomping, some n, c.step)
      | none => some (.clip, some n, c)

/-- Empty lines and the indentation of the next one.  `indent` is the column of the text if it is known and 0 if
not; the result has the breaks, the greatest column that was reached and the cursor. -/
def takeEmptyLines? (indent : Nat) : Nat → List Char → Nat → Cursor → Option (List Char × Nat × Cursor)
  | 0, breaks, reached, c => some (breaks, reached, c)
  | fuel + 1, breaks, reached, c =>
    let spaces := (c.rest.takeWhile (· = ' ')).length
    let c := c.steps (if indent = 0 then spaces else min spaces (indent - c.column))
    let reached := max reached c.column
    if (indent = 0 || c.column < indent) && c.peek? = some '\t' then none
    else if c.peek?.any isBreak then
      let (text, c) := c.takeBreak
      takeEmptyLines? indent fuel (breaks ++ text) reached c
    else some (breaks, reached, c)

/-- The lines of a block scalar.  `text` holds the characters so far, newest first, `lastBreak` the break after
the last line, `breaks` those of empty lines after it, and `wasMore` tells that the last line began with a gap. -/
def takeLines? (literal : Bool) (indent : Nat) :
    Nat → List Char → List Char → List Char → Bool → Cursor → Option (List Char × List Char × List Char × Cursor)
  | 0, _, _, _, _, _ => none
  | fuel + 1, text, lastBreak, breaks, wasMore, c =>
    if c.column ≠ indent || c.rest.isEmpty then some (text, lastBreak, breaks, c)
    else do
      let isMore := c.peek?.any isGap
      let joint :=
        if !literal && lastBreak.head? = some '\n' && !wasMore && !isMore then
          (if breaks.isEmpty then [' '] else breaks)
        else lastBreak ++ breaks
      let (line, c) := c.takeWhile fun x => !isBreak x
      let text := line.reverse ++ (joint.reverse ++ text)
      let (lastBreak, c) := c.takeBreak
      let (breaks, _, c) ← takeEmptyLines? indent (c.rest.length + 1) [] 0 c
      takeLines? literal indent fuel text lastBreak breaks isMore c

/-- A block scalar after its indicator, inside a collection at column `outer` (-1 for none). -/
def takeBlock? (literal : Bool) (outer : Int) (c : Cursor) : Option (String × Cursor) := do
  let (chomping, given, c) ← takeHeader? c
  let c ← c.endLine?
  let indent := match given with
    | some n => if 0 ≤ outer then outer.toNat + n else n
    | none => 0
  let (breaks, reached, c) ← takeEmptyLines? indent (c.rest.length + 1) [] 0 c
  let indent := if indent = 0 then max (max reached (outer + 1).toNat) 1 else indent
  let (text, lastBreak, breaks, c) ← takeLines? literal indent (c.rest.length + 1) [] [] breaks false c
  let ending := match chomping with
    | .strip => []
    | .clip => lastBreak
    | .keep => lastBreak ++ breaks
  return (String.ofList (text.reverse ++ ending), c)

end MetricFeed.Yaml
