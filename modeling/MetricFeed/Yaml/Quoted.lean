import MetricFeed.Text.Hex
import MetricFeed.Yaml.Plain

/-!
# Quoted scalars

In single quotes a quote is written twice.  In double quotes a backslash starts an escape, and at the end of a line
it joins the next line on.
-/

namespace MetricFeed.Yaml

/-- The character of a one-letter escape. -/
def shortEscape? : Char → Option Char
  | '0' => some '\x00'
  | 'a' => some '\x07'
  | 'b' => some '\x08'
  | 't' => some '\t'
  | '\t' => some '\t'
  | 'n' => some '\n'
  | 'v' => some '\x0B'
  | 'f' => some '\x0C'
  | 'r' => some '\r'
  | 'e' => some '\x1B'
  | ' ' => some ' '
  | '"' => some '"'
  | '/' => some '/'
  | '\\' => some '\\'
  | 'N' => some '\u0085'
  | '_' => some '\u00A0'
  | 'L' => some '\u2028'
  | 'P' => some '\u2029'
  | _ => none

/-- How many hexadecimal digits follow the letter of an escape. -/
def escapeDigits? : Char → Option Nat
  | 'x' => some 2
  | 'u' => some 4
  | 'U' => some 8
  | _ => none

/-- The character of the escape after a backslash, and the cursor after it. -/
def takeEscape? (c : Cursor) : Option (Char × Cursor) := do
  let x ← c.peek?
  match escapeDigits? x with
  | some n =>
    let c := c.step
    let ds := c.rest.take n
    let code ← if ds.length = n then Text.ofHex? ds else none
    if (0xD800 ≤ code && code ≤ 0xDFFF) || 0x10FFFF < code then none
    else return (Char.ofNat code, c.steps n)
  | none => return (← shortEscape? x, c.step)

/-- The characters up to a gap, a break or the closing quote, put before `text`; and whether an escaped line break
ended them. -/
def takeQuotedWord? (quote : Char) : Nat → List Char → Cursor → Option (List Char × Bool × Cursor)
  | 0, text, c => some (text, false, c)
  | fuel + 1, text, c =>
    match c.peek? with
    | none => some (text, false, c)
    | some x =>
      if isGap x || isBreak x then some (text, false, c)
      else if x = quote then
        if quote = '\'' && c.ahead? 1 = some '\'' then takeQuotedWord? quote fuel (x :: text) (c.steps 2)
        else some (text, false, c)
      else if quote = '"' && x = '\\' then
        if c.ahead? 1 |>.any isBreak then some (text, true, c.step.takeBreak.2)
        else match takeEscape? c.step with
          | some (y, c) => takeQuotedWord? quote fuel (y :: text) c
          | none => none
      else takeQuotedWord? quote fuel (x :: text) c.step

/-- A quoted scalar after its opening quote, and the cursor after the closing one. -/
def takeQuoted? (quote : Char) : Nat → List Char → Cursor → Option (String × Cursor)
  | 0, _, _ => none
  | fuel + 1, text, c =>
    if c.atDocumentMark || c.rest.isEmpty then none
    else do
      let (text, joined, c) ← takeQuotedWord? quote (c.rest.length + 1) text c
      if c.peek? = some quote then return (String.ofList text.reverse, c.step)
      let (s, c) ← takeSpacing? 0 (c.rest.length + 1) { broken := joined } c
      takeQuoted? quote fuel (s.text.reverse ++ text) c

end MetricFeed.Yaml
