import MetricFeed.Series
import MetricFeed.Text.Shown

/-!
# Commands

A command is one line of text: a `series` command carries a value, a `metric` command describes a metric, and a
`property` command gives facts about an entity.  Texts stand in double quotes; the type of a property and the keys
of its values stand bare, so they are refused if they hold a blank, a quote or an equals sign.
-/

namespace MetricFeed

inductive CommandError where
  | name (e : NameError)
  | bareToken (text : String)
  deriving DecidableEq

def CommandError.message : CommandError → String
  | .name e => e.message
  | .bareToken text => "invalid bare token: " ++ Text.shown text

inductive Command where
  | series (entity name value : String) (tags : Tags) (time : Nat)
  | metric (name : String) (tags : Tags)
  | property (entity : String) (time : Nat) (type : String) (values : List (String × String))
  deriving DecidableEq

/-- Facts about a host; time 0 means the time of sending. -/
structure Property where
  host : String
  type : String
  time : Nat := 0
  values : List (String × String) := []
  deriving DecidableEq

namespace Command

/-- A text between double quotes. -/
def quoted (s : String) : Except CommandError String :=
  match quoteField s with
  | .ok text => .ok ("\"" ++ text ++ "\"")
  | .error e => .error (.name e)

/-- No bare token may hold this character. -/
def breaksToken (c : Char) : Bool :=
  Text.isBlank c || c == '"' || c == '='

def bare (s : String) : Except CommandError String :=
  if s.isEmpty || s.toList.any breaksToken then .error (.bareToken s) else .ok s

def tagsText : Tags → Except CommandError String
  | [] => .ok ""
  | t :: ts => do
    let key ← quoted t.key
    let value ← quoted t.value
    let rest ← tagsText ts
    return " t:" ++ key ++ "=" ++ value ++ rest

def valuesText : List (String × String) → Except CommandError String
  | [] => .ok ""
  | v :: vs => do
    let key ← bare v.1
    let value ← quoted v.2
    let rest ← valuesText vs
    return " v:" ++ key ++ "=" ++ value ++ rest

/-- The line of a command, its line feed included. -/
def line : Command → Except CommandError String
  | .series entity name value tags time => do
    let entity ← quoted entity
    let name ← quoted name
    let tags ← tagsText tags
    return "series e:" ++ entity ++ " m:" ++ name ++ "=" ++ value ++ tags ++ " ms:" ++ toString time ++ " \n"
  | .metric name tags => do
    let name ← quoted name
    let tags ← tagsText tags
    return "metric m:" ++ name ++ tags ++ " \n"
  | .property entity time type values => do
    let entity ← quoted entity
    let type ← bare type
    let values ← valuesText values
    return "property e:" ++ entity ++ " ms:" ++ toString time ++ " t:" ++ type ++ values ++ " \n"

end Command

/-- The command that carries the value of a series. -/
def Series.command (s : Series) : Command :=
  .series s.entity s.metric s.value s.seriesTags s.time

/-- The command that describes the metric of a series. -/
def Series.definition (s : Series) : Command :=
  .metric s.metric s.metricTags

def Property.command (p : Property) (entity : String) : Command :=
  .property entity p.time p.type p.values

end MetricFeed
