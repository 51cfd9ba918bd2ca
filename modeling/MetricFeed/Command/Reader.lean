import MetricFeed.Command
import MetricFeed.Number.Reading
import MetricFeed.Text.Split

/-!
# Reading commands back

The lines of commands follow each other in one text.  `take?` reads the command at the front of such a text and
`readAll?` all of them; a text that does not consist of commands is refused.  Nothing but the command itself tells
where its line ends, because a quoted field may hold a line feed.
-/

namespace MetricFeed.Command

/-! ### Parts of a line -/

/-- What follows the characters of the first list at the front of the second. -/
def skip? : List Char → List Char → Option (List Char)
  | [], cs => some cs
  | x :: xs, c :: cs => if x = c then skip? xs cs else none
  | _ :: _, [] => none

/-- A quoted field. -/
def takeField? (cs : List Char) : Option (String × List Char) := do
  let (text, cs) ← Text.Quoted.take? (← skip? ['"'] cs)
  return (String.ofList text, cs)

/-- The characters up to `stop`, and what follows that. -/
def takeWord? (stop : Char) (cs : List Char) : Option (String × List Char) :=
  (Text.cut? stop cs).map fun r => (String.ofList r.1, r.2)

/-- A whole number that ends at a blank. -/
def takeNumber? (cs : List Char) : Option (Nat × List Char) := do
  let (digits, cs) ← Text.cut? ' ' cs
  if digits.isEmpty || !digits.all Char.isDigit then none else some (Number.digitsValue digits, cs)

/-- Tags, each of which ends at a blank; the first argument bounds their number. -/
def takeTags? : Nat → List Char → Option (Tags × List Char)
  | 0, _ => none
  | fuel + 1, cs =>
    match skip? ['t', ':'] cs with
    | none => some ([], cs)
    | some cs => do
      let (key, cs) ← takeField? cs
      let (value, cs) ← takeField? (← skip? ['='] cs)
      let (tags, cs) ← takeTags? fuel (← skip? [' '] cs)
      return (⟨key, value⟩ :: tags, cs)

/-- Keys with their values, each of which ends at a blank. -/
def takeValues? : Nat → List Char → Option (List (String × String) × List Char)
  | 0, _ => none
  | fuel + 1, cs =>
    match skip? ['v', ':'] cs with
    | none => some ([], cs)
    | some cs => do
      let (key, cs) ← takeWord? '=' cs
      let (value, cs) ← takeField? cs
      let (values, cs) ← takeValues? fuel (← skip? [' '] cs)
      return ((key, value) :: values, cs)

/-! ### Lines -/

/-- The rest of a `series` line, after that word. -/
def takeSeries? (cs : List Char) : Option (Command × List Char) := do
  let (entity, cs) ← takeField? (← skip? ['e', ':'] cs)
  let (name, cs) ← takeField? (← skip? [' ', 'm', ':'] cs)
  let (value, cs) ← takeWord? ' ' (← skip? ['='] cs)
  let (tags, cs) ← takeTags? (cs.length + 1) cs
  let (time, cs) ← takeNumber? (← skip? ['m', 's', ':'] cs)
  return (.series entity name value tags time, ← skip? ['\n'] cs)

/-- The rest of a `metric` line, after that word. -/
def takeMetric? (cs : List Char) : Option (Command × List Char) := do
  let (name, cs) ← takeField? (← skip? ['m', ':'] cs)
  let cs ← skip? [' '] cs
  let (tags, cs) ← takeTags? (cs.length + 1) cs
  return (.metric name tags, ← skip? ['\n'] cs)

/-- The rest of a `property` line, after that word. -/
def takeProperty? (cs : List Char) : Option (Command × List Char) := do
  let (entity, cs) ← takeField? (← skip? ['e', ':'] cs)
  let (time, cs) ← takeNumber? (← skip? [' ', 'm', 's', ':'] cs)
  let (type, cs) ← takeWord? ' ' (← skip? ['t', ':'] cs)
  let (values, cs) ← takeValues? (cs.length + 1) cs
  return (.property entity time type values, ← skip? ['\n'] cs)

/-- The command whose line stands at the front, and what follows the line. -/
def take? (cs : List Char) : Option (Command × List Char) := do
  let (word, cs) ← takeWord? ' ' cs
  match word with
  | "series" => takeSeries? cs
  | "metric" => takeMetric? cs
  | "property" => takeProperty? cs
  | _ => none

/-- The commands whose lines make up a text; the first argument bounds their number. -/
def takeAll? : Nat → List Char → Option (List Command)
  | _, [] => some []
  | 0, _ :: _ => none
  | fuel + 1, c :: cs => do
    let (command, rest) ← take? (c :: cs)
    return command :: (← takeAll? fuel rest)

/-- The commands whose lines make up a text. -/
def readAll? (s : String) : Option (List Command) :=
  takeAll? s.length s.toList

end MetricFeed.Command
