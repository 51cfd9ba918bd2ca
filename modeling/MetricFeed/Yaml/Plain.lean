import MetricFeed.Yaml.Cursor

/-!
# Scalars on the flow of a text

Plain and quoted scalars.  Where such a scalar goes on in the next line, a single line break is folded into a space
and every further break is kept.
-/

namespace MetricFeed.Yaml

/-! ### Folding -/

/-- The gaps and line breaks between two words. -/
structure Spacing where
  gaps : List Char := []
  firstBreak : List Char := []
  moreBreaks : List Char := []
  /-- A line ends here. -/
  broken : Bool := false

/-- The text that spacing stands for. -/
def Spacing.text (s : Spacing) : List Char :=
  if s.broken then
    if s.firstBreak.head? = some '\n' then (if s.moreBreaks.isEmpty then [' '] else s.moreBreaks)
    else s.firstBreak ++ s.moreBreaks
  else s.gaps

/-- Gaps and breaks at the cursor.  At the beginning of a line, a tab left of column `margin` is an error. -/
def takeSpacing? (margin : Nat) : Nat → Spacing → Cursor → Option (Spacing × Cursor)
  | 0, s, c => some (s, c)
  | fuel + 1, s, c =>
    match c.peek? with
    | none => some (s, c)
    | some x =>
      if isGap x then
        if s.broken then
          if x = '\t' && c.column < margin then none else takeSpacing? margin fuel s c.step
        else takeSpacing? margin fuel { s with gaps := s.gaps ++ [x] } c.step
      else if isBreak x then
        let (text, c) := c.takeBreak
        if s.broken then takeSpacing? margin fuel { s with moreBreaks := s.moreBreaks ++ text } c
        else takeSpacing? margin fuel { s with gaps := [], firstBreak := text, broken := true } c
      else some (s, c)

/-! ### Plain scalars -/

/-- The characters that structure a flow collection. -/
def isFlowMark (c : Char) : Bool :=
  c == ',' || c == '[' || c == ']' || c == '\x7b' || c == '\x7d'

/-- The characters up to the end of a plain word.  In a flow collection a colon right before one of its marks is an
error. -/
def takeWord? (inFlow : Bool) : Nat → List Char → Cursor → Option (List Char × Cursor)
  | 0, word, c => some (word, c)
  | fuel + 1, word, c =>
    match c.peek? with
    | none => some (word, c)
    | some x =>
      let next := c.ahead? 1
      if endsWord (some x) then some (word, c)
      else if inFlow && x = ':' && next.any fun y => isFlowMark y || y == '?' then none
      else if x = ':' && endsWord next then some (word, c)
      else if inFlow && isFlowMark x then some (word, c)
      else takeWord? inFlow fuel (x :: word) c.step

structure PlainScalar where
  text : String
  /-- A line ends after the last word. -/
  broken : Bool
  after : Cursor

/-- A plain scalar whose lines are indented to column `margin`.  The characters read so far stand in `text`, newest
first, and `s` is the spacing after them. -/
def takePlain? (inFlow : Bool) (margin : Nat) : Nat → List Char → Spacing → Cursor → Option PlainScalar
  | 0, _, _, _ => none
  | fuel + 1, text, s, c =>
    if c.atDocumentMark || c.peek? = some '#' then some ⟨String.ofList text.reverse, s.broken, c⟩
    else do
      let (word, c) ← takeWord? inFlow (c.rest.length + 1) [] c
      let text := if word.isEmpty then text else word ++ (s.text.reverse ++ text)
      let s := if word.isEmpty then s else {}
      if !c.peek?.any (fun x => isGap x || isBreak x) then
        return ⟨String.ofList text.reverse, s.broken, c⟩
      let (s, c) ← takeSpacing? margin (c.rest.length + 1) s c
      if !inFlow && c.column < margin then return ⟨String.ofList text.reverse, s.broken, c⟩
      takePlain? inFlow margin fuel text s c

end MetricFeed.Yaml
