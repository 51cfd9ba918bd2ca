import MetricFeed.Text.Hex
import MetricFeed.Text.Utf8
import MetricFeed.Yaml.Cursor

/-!
# Tokens of a YAML text

The tokens, and taking those off the front of a text that are words of their own: anchors, aliases, tags and
directives.  The escapes of a tag spell bytes, which need not make up characters, so a tag is a list of bytes.
-/

namespace MetricFeed.Yaml

/-- How a scalar is written, as far as its meaning depends on that. -/
inductive Style where
  | plain
  | literal
  | other
  deriving DecidableEq

/-- The bytes of a tag, which end before a zero byte. -/
abbrev Tag := List UInt8

inductive Token where
  | streamEnd
  | version (major minor : Nat)
  | tagDirective (handle : String) (uri : Tag)
  | documentStart
  | documentEnd
  | blockSequenceStart
  | blockMappingStart
  | blockEnd
  | flowSequenceStart
  | flowSequenceEnd
  | flowMappingStart
  | flowMappingEnd
  | blockEntry
  | flowEntry
  | key
  | value
  | alias (name : String)
  | anchor (name : String)
  | tag (handle : String) (suffix : Tag)
  | scalar (style : Style) (text : String)
  deriving DecidableEq

/-! ### Anchors and aliases -/

/-- May stand right after a name. -/
def endsName (c : Option Char) : Bool :=
  endsWord c || c.any fun x =>
    x == '?' || x == ':' || x == ',' || x == ']' || x == '\x7d' || x == '%' || x == '@' || x == '\x60'

/-- The name after an anchor or alias indicator. -/
def takeName? (c : Cursor) : Option (String × Cursor) :=
  let (name, c) := c.step.takeWhile isNameChar
  if name.isEmpty || !endsName c.peek? then none else some (String.ofList name, c)

/-! ### Tags -/

/-- A character of a tag; brackets and commas count only in a tag that is given in full. -/
def isTagChar (full : Bool) (c : Char) : Bool :=
  isNameChar c || c == ';' || c == '/' || c == '?' || c == ':' || c == '@' || c == '&' || c == '=' || c == '+' ||
    c == '$' || c == '.' || c == '%' || c == '!' || c == '~' || c == '*' || c == '\'' || c == '(' || c == ')' ||
    (full && (c == ',' || c == '[' || c == ']'))

/-- An escaped byte. -/
def takeByte? (c : Cursor) : Option (UInt8 × Cursor) :=
  if c.peek? = some '%' then
    let ds := (c.rest.drop 1).take 2
    if ds.length = 2 then (Text.ofHex? ds).map fun n => (UInt8.ofNat n, c.steps 3) else none
  else none

/-- So many escaped bytes that go on a character. -/
def takeTail? : Nat → Cursor → Option (Tag × Cursor)
  | 0, c => some ([], c)
  | n + 1, c => do
    let (b, c) ← takeByte? c
    if b / 64 = 2 then
      let (bs, c) ← takeTail? n c
      return (b :: bs, c)
    else none

/-- The escaped bytes of one character.  The first byte says how many there are; whether they make up a character is
not looked at. -/
def takeEscaped? (c : Cursor) : Option (Tag × Cursor) := do
  let (b, c) ← takeByte? c
  let n ←
    if b < 0x80 then some 0
    else if b / 32 = 6 then some 1
    else if b / 16 = 14 then some 2
    else if b / 8 = 30 then some 3
    else none
  let (bs, c) ← takeTail? n c
  return (b :: bs, c)

/-- The bytes of a tag, those before it in `text`, newest first. -/
def takeTagBytes? (full : Bool) : Nat → Tag → Cursor → Option (Tag × Cursor)
  | 0, text, c => some (text.reverse, c)
  | fuel + 1, text, c =>
    match c.peek? with
    | none => some (text.reverse, c)
    | some x =>
      if x = '%' then match takeEscaped? c with
        | some (bs, c) => takeTagBytes? full fuel (bs.reverse ++ text) c
        | none => none
      else if isTagChar full x then takeTagBytes? full fuel (UInt8.ofNat x.toNat :: text) c.step
      else some (text.reverse, c)

/-- A tag or the front of tags, of which something must be written. -/
def takeTagText? (full : Bool) (c : Cursor) : Option (Tag × Cursor) := do
  let (text, c) ← takeTagBytes? full (c.rest.length + 1) [] c
  if text.isEmpty then none else return (text.takeWhile (· ≠ 0), c)

/-- A handle: `!`, `!!` or `!name!`, and the beginning of a tag `!name`. -/
def takeHandle? (c : Cursor) : Option (List Char × Cursor) :=
  if c.peek? = some '!' then
    let (name, c) := c.step.takeWhile isNameChar
    if c.peek? = some '!' then some ('!' :: (name ++ ['!']), c.step) else some ('!' :: name, c)
  else none

/-- A handle and the rest of the tag, at the `!` the tag starts with. -/
def takeTagParts? (c : Cursor) : Option (String × Tag × Cursor) :=
  if c.ahead? 1 = some '<' then do
    let (text, c) ← takeTagText? true (c.steps 2)
    if c.peek? ≠ some '>' then none else return ("", text, c.step)
  else do
    let (handle, after) ← takeHandle? c
    if 1 < handle.length && handle.getLast? = some '!' then
      let (text, c) ← takeTagText? false after
      return (String.ofList handle, text, c)
    else
      let (text, c) ← takeTagBytes? false (c.rest.length + 1) [] c.step
      let text := text.takeWhile (· ≠ 0)
      if text.isEmpty then return ("", Text.bytes "!", c) else return ("!", text, c)

/-- A tag; it ends with its word, or at a comma in a flow collection. -/
def takeTag? (inFlow : Bool) (c : Cursor) : Option (Token × Cursor) := do
  let (handle, suffix, c) ← takeTagParts? c
  if endsWord c.peek? || (inFlow && c.peek? = some ',') then return (.tag handle suffix, c) else none

/-! ### Directives -/

/-- A number of at most nine digits. -/
def takeVersionNumber? (c : Cursor) : Option (Nat × Cursor) :=
  let (ds, c) := c.takeWhile Char.isDigit
  if ds.isEmpty || 9 < ds.length then none else some (Nat.ofDigitChars 10 ds 0, c)

def takeVersion? (c : Cursor) : Option (Token × Cursor) := do
  let (major, c) ← takeVersionNumber? c.skipGaps
  if c.peek? ≠ some '.' then none
  else
    let (minor, c) ← takeVersionNumber? c.step
    return (.version major minor, c)

def takeTagDirective? (c : Cursor) : Option (Token × Cursor) := do
  let (handle, c) ← takeHandle? c.skipGaps
  if 1 < handle.length && handle.getLast? ≠ some '!' then none
  else if !c.peek?.any isGap then none
  else
    let (uri, c) ← takeTagText? true c.skipGaps
    if !endsWord c.peek? then none else return (.tagDirective (String.ofList handle) uri, c)

/-- A directive with the end of its line. -/
def takeDirective? (c : Cursor) : Option (Token × Cursor) := do
  let (name, c) := c.step.takeWhile isNameChar
  if !endsWord c.peek? then none
  else
    let (token, c) ←
      if name = ['Y', 'A', 'M', 'L'] then takeVersion? c
      else if name = ['T', 'A', 'G'] then takeTagDirective? c
      else none
    return (token, ← c.endLine?)

end MetricFeed.Yaml
