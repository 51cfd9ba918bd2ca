import MetricFeed.Json.Reader
import MetricFeed.ValueText

/-!
# Records

A record is a sample as it comes in: one JSON document on a line, its time in seconds and its values as numbers
under the name of a kind.  A record becomes a sample if its time is one, every value fits its kind and the rates
come one per value; the first of these that fails is the error.
-/

namespace MetricFeed

structure ValueRecord where
  name : String
  kind : String
  number : JsonNumber

structure Record where
  entity : Option String := none
  host : String
  plugin : String
  pluginInstance : String := ""
  typeName : String
  typeInstance : String := ""
  /-- In seconds since 1970. -/
  time : Float
  values : List ValueRecord
  /-- `none` where there is no rate yet. -/
  rates : Option (List (Option Float)) := none
  labels : List (String × String) := []

inductive RecordError where
  /-- The line is no record. -/
  | malformed
  | sample (e : SampleError)
  | value (name : String) (kind : Kind) (number : JsonNumber)
  | time (seconds : Float)

def RecordError.message : RecordError → String
  | .malformed => "JSON parse error"
  | .sample e => e.message
  | .value name kind number =>
    "value '" ++ name ++ "' is not a valid " ++ kind.name ++ ": " ++ number.text
  | .time seconds => "invalid sample time: " ++ plain seconds

/-! ### Reading a record -/

namespace Record

/-- The entries with one of the names.  A name that is no text, and a repeated one, spoils the record. -/
def known? (names : List String) : List (Option String × Json) → Option (List (String × Json))
  | [] => some []
  | (none, _) :: _ => none
  | (some key, value) :: rest => do
    let entries ← known? names rest
    if !names.contains key then some entries
    else if (entries.lookup key).isSome then none
    else some ((key, value) :: entries)

def field? {α : Type} (entries : List (String × Json)) (name : String) (read : Json → Option α) : Option α :=
  (entries.lookup name).bind read

/-- A field that may be missing. -/
def fieldOr? {α : Type} (entries : List (String × Json)) (name : String) (read : Json → Option α) (missing : α) :
    Option α :=
  match entries.lookup name with
  | some value => read value
  | none => some missing

def readValue? (j : Json) : Option ValueRecord := do
  let entries ← (← j.entries? ["name", "kind", "value"]) |> known? ["name", "kind", "value"]
  return {
    name := ← field? entries "name" Json.text?
    kind := ← field? entries "kind" Json.text?
    number := ← field? entries "value" Json.number? }

def readValues? (j : Json) : Option (List ValueRecord) :=
  j.items?.bind fun items => items.mapM readValue?

def readRates? (j : Json) : Option (List (Option Float)) :=
  j.items?.bind fun items => items.mapM (Json.optional? Json.float?)

/-- Texts by name; a later text replaces an earlier one of its name. -/
def readLabels? : Json → Option (List (String × String))
  | .object entries => entries.mapM fun e => do return (← e.1, ← e.2.text?)
  | _ => none

def fieldNames : List String :=
  ["entity", "host", "plugin", "plugin_instance", "type", "type_instance", "time", "values", "rates", "meta"]

def ofJson? (j : Json) : Option Record := do
  let entries ← (← j.entries? fieldNames) |> known? fieldNames
  return {
    entity := ← fieldOr? entries "entity" (Json.optional? Json.text?) none
    host := ← field? entries "host" Json.text?
    plugin := ← field? entries "plugin" Json.text?
    pluginInstance := ← fieldOr? entries "plugin_instance" Json.text? ""
    typeName := ← field? entries "type" Json.text?
    typeInstance := ← fieldOr? entries "type_instance" Json.text? ""
    time := ← field? entries "time" Json.float?
    values := ← field? entries "values" readValues?
    rates := ← fieldOr? entries "rates" (Json.optional? readRates?) none
    labels := ← fieldOr? entries "meta" readLabels? [] }

end Record

/-! ### From a record to a sample -/

/-- The value of a kind that a number stands for: any number is a gauge, the counters take whole numbers of their
range only. -/
def Value.ofNumber? : Kind → JsonNumber → Option Value
  | .gauge, n => some (.gauge n.toFloat)
  | .counter, .natural n => some (.counter n)
  | .absolute, .natural n => some (.absolute n)
  | .derive, .natural n => if n.toNat < 0x8000000000000000 then some (.derive (Int64.ofNat n.toNat)) else none
  | .derive, .negative n => some (.derive n)
  | _, _ => none

def ValueRecord.toDataSource (v : ValueRecord) : Except RecordError DataSource :=
  match Kind.ofText v.kind with
  | .error e => .error (.sample e)
  | .ok kind => match Value.ofNumber? kind v.number with
    | some value => .ok ⟨v.name, value⟩
    | none => .error (.value v.name kind v.number)

namespace Record

/-- A time is finite and not negative. -/
def isTime (seconds : Float) : Bool :=
  seconds.isFinite && !(seconds < 0)

/-- Seconds as whole milliseconds: the double product rounded to the nearest, a half upward, and bounded by 64
bits. -/
def millis (seconds : Float) : Nat :=
  let d := Number.magnitude (seconds * 1000)
  min (Number.roundDiv .up d.num d.den) 0xFFFFFFFFFFFFFFFF

def rateList (rates : List (Option Float)) : List Float :=
  rates.map fun r => r.getD (Float.ofBits 0x7FF8000000000000)

def toSample (r : Record) : Except RecordError Sample := do
  if !isTime r.time then throw (.time r.time)
  let values ← r.values.mapM ValueRecord.toDataSource
  let sample : Sample := {
    entityHint := r.entity
    host := r.host
    plugin := r.plugin
    pluginInstance := r.pluginInstance
    typeName := r.typeName
    typeInstance := r.typeInstance
    time := millis r.time
    values
    rates := r.rates.map rateList
    labels := r.labels }
  match sample.validate with
  | .error e => throw (.sample e)
  | .ok () => return sample

end Record

/-- The sample on a line. -/
def Sample.ofLine (line : String) : Except RecordError Sample :=
  match (Json.read? line).bind Record.ofJson? with
  | some r => r.toSample
  | none => .error .malformed

end MetricFeed
