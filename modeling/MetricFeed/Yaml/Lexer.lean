import MetricFeed.Yaml.Block
import MetricFeed.Yaml.Quoted
import MetricFeed.Yaml.Token

/-!
# From text to tokens

The lexer finds tokens one at a time and no earlier than they are asked for.  Block collections are opened and
closed by indentation.  A scalar may turn out to be a key only when the colon after it is found, so a token that may
be one is held back until that is known; `peek?` gives the first token that is certain.
-/

namespace MetricFeed.Yaml

/-- A place where a key may have begun. -/
structure KeyStart where
  /-- The key must be one, because its line stands at the indentation of a mapping. -/
  required : Bool
  /-- The number of its first token. -/
  token : Nat
  index : Nat
  line : Nat
  column : Nat

structure Lexer where
  cursor : Cursor
  /-- Tokens found and not yet taken. -/
  queue : List Token := []
  /-- How many tokens have been taken. -/
  taken : Nat := 0
  /-- The column of the innermost block collection, -1 outside of all. -/
  indent : Int := -1
  /-- The columns of the collections around it. -/
  outer : List Int := []
  /-- A key may begin here. -/
  keyAllowed : Bool := true
  /-- For each flow collection around the cursor, innermost first, and for the block context at the end: where a
  key may have begun. -/
  keys : List (Option KeyStart) := [none]
  ended : Bool := false
  /-- More of the text comes after the rest of the cursor, and cannot be read. -/
  brokenOff : Bool := false

namespace Lexer

def flowLevel (l : Lexer) : Nat :=
  l.keys.length - 1

def inFlow (l : Lexer) : Bool :=
  1 < l.keys.length

def push (l : Lexer) (t : Token) : Lexer :=
  { l with queue := l.queue ++ [t] }

/-- Put a token before the one with number `n`. -/
def insertBefore (l : Lexer) (n : Nat) (t : Token) : Lexer :=
  let i := n - l.taken
  { l with queue := l.queue.take i ++ t :: l.queue.drop i }

/-! ### Where a key may begin -/

/-- Forget the innermost place; an error if a key had to begin there. -/
def dropKey? (l : Lexer) : Option Lexer :=
  match l.keys with
  | some k :: ks => if k.required then none else some { l with keys := none :: ks }
  | _ => some l

/-- Note the place of the cursor, if a key may begin there. -/
def noteKey? (l : Lexer) : Option Lexer :=
  if l.keyAllowed then do
    let c := l.cursor
    let k : KeyStart := {
      required := !l.inFlow && l.indent == c.column
      token := l.taken + l.queue.length
      index := c.index
      line := c.line
      column := c.column }
    let l ← l.dropKey?
    return { l with keys := some k :: l.keys.drop 1 }
  else some l

/-- Forget the places that are too far back: a key ends on its line and within 1024 bytes. -/
def dropStaleKeys? (l : Lexer) : Option Lexer := do
  let keys ← l.keys.mapM fun k? => match k? with
    | some k =>
      if k.line < l.cursor.line || k.index + 1024 < l.cursor.index then
        (if k.required then none else some none)
      else some (some k)
    | none => some none
  return { l with keys }

/-! ### Indentation -/

/-- Open a block collection at a column right of the present one; its token goes before token number `at?`. -/
def openBlock (l : Lexer) (column : Nat) (at? : Option Nat) (t : Token) : Lexer :=
  if !l.inFlow && l.indent < column then
    let l := { l with indent := column, outer := l.indent :: l.outer }
    match at? with
    | some n => l.insertBefore n t
    | none => l.push t
  else l

/-- Close the block collections right of a column. -/
def closeBlocks (column : Int) : List Int → Lexer → Lexer
  | [], l => l
  | o :: os, l =>
    if column < l.indent then closeBlocks column os { l.push .blockEnd with indent := o, outer := os } else l

def unindent (l : Lexer) (column : Int) : Lexer :=
  if l.inFlow then l else closeBlocks column l.outer l

/-! ### Blanks and comments -/

/-- Past blanks and comments to the next token.  Tabs count as blanks where no key may begin, and a line may start
with a byte order mark. -/
def skipBlanks : Nat → Lexer → Lexer
  | 0, l => l
  | fuel + 1, l =>
    let tabs := l.inFlow || !l.keyAllowed
    let c := if l.cursor.column = 0 && l.cursor.peek? = some '\uFEFF' then l.cursor.step else l.cursor
    let c := (c.takeWhile fun x => x == ' ' || (tabs && x == '\t')).2.skipComment
    if c.peek?.any isBreak then
      skipBlanks fuel { l with cursor := c.takeBreak.2, keyAllowed := l.keyAllowed || !l.inFlow }
    else { l with cursor := c }

/-! ### The kinds of tokens -/

/-- A token of `n` characters that is complete in itself. -/
def take (l : Lexer) (n : Nat) (t : Token) (keyAllowed : Bool) : Lexer :=
  { l.push t with cursor := l.cursor.steps n, keyAllowed }

def fetchEnd? (l : Lexer) : Option Lexer := do
  let l ← (l.unindent (-1)).dropKey?
  return { l.push .streamEnd with cursor := l.cursor.closeLine, keyAllowed := false, ended := true }

def fetchDirective? (l : Lexer) : Option Lexer := do
  let l ← (l.unindent (-1)).dropKey?
  let (t, c) ← takeDirective? l.cursor
  return { l.push t with cursor := c, keyAllowed := false }

def fetchMark? (l : Lexer) (t : Token) : Option Lexer := do
  let l ← (l.unindent (-1)).dropKey?
  return l.take 3 t false

def fetchFlowStart? (l : Lexer) (t : Token) : Option Lexer := do
  let l ← l.noteKey?
  return { l with keys := none :: l.keys }.take 1 t true

def fetchFlowEnd? (l : Lexer) (t : Token) : Option Lexer := do
  let l ← l.dropKey?
  return { l with keys := if l.inFlow then l.keys.drop 1 else l.keys }.take 1 t false

def fetchFlowEntry? (l : Lexer) : Option Lexer := do
  let l ← l.dropKey?
  return l.take 1 .flowEntry true

def fetchBlockEntry? (l : Lexer) : Option Lexer := do
  if !l.inFlow && !l.keyAllowed then none
  else
    let l ← (l.openBlock l.cursor.column none .blockSequenceStart).dropKey?
    return l.take 1 .blockEntry true

def fetchKey? (l : Lexer) : Option Lexer := do
  if !l.inFlow && !l.keyAllowed then none
  else
    let l ← (l.openBlock l.cursor.column none .blockMappingStart).dropKey?
    return l.take 1 .key (!l.inFlow)

/-- The colon after a key.  If the key began at a noted place, its tokens are put there. -/
def fetchValue? (l : Lexer) : Option Lexer :=
  match l.keys.head?.join with
  | some k =>
    let l := (l.insertBefore k.token .key).openBlock k.column (some k.token) .blockMappingStart
    some ({ l with keys := none :: l.keys.drop 1 }.take 1 .value false)
  | none =>
    if !l.inFlow && !l.keyAllowed then none
    else some ((l.openBlock l.cursor.column none .blockMappingStart).take 1 .value (!l.inFlow))

def fetchName? (l : Lexer) (t : String → Token) : Option Lexer := do
  let l ← l.noteKey?
  let (name, c) ← takeName? l.cursor
  return { l.push (t name) with cursor := c, keyAllowed := false }

def fetchTag? (l : Lexer) : Option Lexer := do
  let l ← l.noteKey?
  let (t, c) ← takeTag? l.inFlow l.cursor
  return { l.push t with cursor := c, keyAllowed := false }

def fetchBlockScalar? (l : Lexer) (literal : Bool) : Option Lexer := do
  let l ← l.dropKey?
  let (text, c) ← takeBlock? literal l.indent l.cursor.step
  return { l.push (.scalar (if literal then .literal else .other) text) with cursor := c, keyAllowed := true }

def fetchQuoted? (l : Lexer) (quote : Char) : Option Lexer := do
  let l ← l.noteKey?
  let (text, c) ← takeQuoted? quote (l.cursor.rest.length + 1) [] l.cursor.step
  return { l.push (.scalar .other text) with cursor := c, keyAllowed := false }

def fetchPlain? (l : Lexer) : Option Lexer := do
  let l ← l.noteKey?
  let p ← takePlain? l.inFlow (l.indent + 1).toNat (l.cursor.rest.length + 1) [] {} l.cursor
  return { l.push (.scalar .plain p.text) with cursor := p.after, keyAllowed := p.broken }

/-- The characters that start no plain scalar. -/
def isIndicator (c : Char) : Bool :=
  c == '-' || c == '?' || c == ':' || c == ',' || c == '[' || c == ']' || c == '\x7b' || c == '\x7d' || c == '#' ||
    c == '&' || c == '*' || c == '!' || c == '|' || c == '>' || c == '\'' || c == '"' || c == '%' || c == '@' ||
    c == '\x60'

/-- Some indicators do start a plain scalar where a word follows at once. -/
def startsPlain (inFlow : Bool) (x : Char) (next : Option Char) : Bool :=
  !(isIndicator x || endsWord (some x)) || (x == '-' && !next.any isGap) ||
    (!inFlow && (x == '?' || x == ':') && !endsWord next)

/-- The text breaks off within the next `n` characters. -/
def breaksWithin (l : Lexer) (n : Nat) : Bool :=
  l.brokenOff && (l.cursor.ahead? (n - 1)).isNone

/-- Find the token at the cursor, or what has to be known before it. -/
def fetchHere? (l : Lexer) : Option Lexer :=
  let c := l.cursor
  let next := c.ahead? 1
  match c.peek? with
  | none => l.fetchEnd?
  | some x =>
    if c.column == 0 && x = '%' then l.fetchDirective?
    else if c.atMark '-' then l.fetchMark? .documentStart
    else if c.atMark '.' then l.fetchMark? .documentEnd
    else if x = '[' then l.fetchFlowStart? .flowSequenceStart
    else if x = '\x7b' then l.fetchFlowStart? .flowMappingStart
    else if x = ']' then l.fetchFlowEnd? .flowSequenceEnd
    else if x = '\x7d' then l.fetchFlowEnd? .flowMappingEnd
    else if x = ',' then l.fetchFlowEntry?
    else if x = '-' && endsWord next then l.fetchBlockEntry?
    else if x = '?' && (l.inFlow || endsWord next) then l.fetchKey?
    else if x = ':' && (l.inFlow || endsWord next) then l.fetchValue?
    else if x = '*' then l.fetchName? .alias
    else if x = '&' then l.fetchName? .anchor
    else if x = '!' then l.fetchTag?
    else if x = '|' && !l.inFlow then l.fetchBlockScalar? true
    else if x = '>' && !l.inFlow then l.fetchBlockScalar? false
    else if x = '\'' || x = '"' then l.fetchQuoted? x
    else if startsPlain l.inFlow x next then l.fetchPlain?
    else none

/-- Find the next token.  Four characters are looked at before it is known which kind of token it is, and one after
the token. -/
def fetch? (l : Lexer) : Option Lexer := do
  let l ← (l.skipBlanks (l.cursor.rest.length + 1)).dropStaleKeys?
  if l.breaksWithin 4 then none
  else
    let l ← (l.unindent l.cursor.column).fetchHere?
    if l.breaksWithin 1 then none else return l

/-- The first token of the queue may still get a key before it. -/
def isHeld (l : Lexer) : Bool :=
  l.keys.any fun k? => k?.any fun k => k.token == l.taken

/-- Find tokens until the first one is certain. -/
def settle? : Nat → Lexer → Option Lexer
  | 0, _ => none
  | fuel + 1, l =>
    if l.queue.isEmpty then (if l.ended then some l else l.fetch?.bind (settle? fuel))
    else do
      let l ← l.dropStaleKeys?
      if l.isHeld then l.fetch?.bind (settle? fuel) else return l

/-- The next token, and the lexer that has found it. -/
def peek? (l : Lexer) : Option (Token × Lexer) := do
  let l ← l.settle? (l.cursor.rest.length + 2)
  let t ← l.queue.head?
  return (t, l)

/-- Past the next token. -/
def advance (l : Lexer) : Lexer :=
  { l with queue := l.queue.drop 1, taken := l.taken + 1 }

/-- How many bytes of a text are taken at a time. -/
def blockSize : Nat := 16384

/-- The text up to the first block with a character that no document may hold, and whether that is all of it.  A
block holds as many characters as fit; those in `block`, newest first, fill the one at hand up to `filled`. -/
def takeBlocks (block : List Char) (filled : Nat) : List Char → List Char × Bool
  | [] => (block.reverse, true)
  | c :: cs =>
    if filled + c.utf8Size ≤ blockSize then
      if isAllowed c then takeBlocks (c :: block) (filled + c.utf8Size) cs else ([], false)
    else
      let (rest, sound) := if isAllowed c then takeBlocks [c] c.utf8Size cs else ([], false)
      (block.reverse ++ rest, sound)

/-- The lexer of a text, which breaks off where a block of it cannot be read. -/
def ofText (s : String) : Lexer :=
  let (rest, sound) := takeBlocks [] 0 s.toList
  { cursor := { rest }, brokenOff := !sound }

end Lexer

end MetricFeed.Yaml
