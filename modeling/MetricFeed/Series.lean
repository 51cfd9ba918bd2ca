import MetricFeed.Name
import MetricFeed.Tags
import MetricFeed.ValueText

/-!
# Series

A series is a named, tagged value at a time, ready to be written.  It is made from one value of a sample
(`Observation`) by a pattern that spells its metric name, and a value gives at most two series.
-/

namespace MetricFeed

inductive SeriesError where
  | name (e : NameError)
  | tooMany (max : Nat)
  | outOfRange (index length : Nat)
  deriving DecidableEq

def SeriesError.message : SeriesError → String
  | .name e => e.message
  | .tooMany max => "more than " ++ toString max ++ " series derived from one value"
  | .outOfRange index length =>
    "data source index " ++ toString index ++ " out of range (" ++ toString length ++ " values)"

structure Series where
  entity : String
  metric : String
  value : String
  /-- Tags of the metric itself. -/
  metricTags : Tags
  /-- Tags of this series. -/
  seriesTags : Tags
  time : Nat
  deriving DecidableEq

/-- One segment of a metric name. -/
inductive NamePart where
  | literal (text : String)
  | plugin
  | pluginInstance
  | type
  | typeInstance
  /-- The name of the data source, left out where it is `value`. -/
  | dataSource
  /-- `raw`, for a value that is no gauge and has no rate. -/
  | raw
  deriving DecidableEq

abbrev Pattern := List NamePart

/-- One value of a sample, with what is needed to name it. -/
structure Observation where
  sample : Sample
  index : Nat
  entity : String
  /-- Stands before every metric name. -/
  namePrefix : String
  nameLimit : Nat
  /-- The text of the value. -/
  text : String

namespace Observation

def dataSource (o : Observation) : Except SeriesError DataSource :=
  match o.sample.values[o.index]? with
  | some ds => .ok ds
  | none => .error (.outOfRange o.index o.sample.values.length)

def rate? (o : Observation) : Option Float :=
  o.sample.rate? o.index

/-- The value is a counter that has not been turned into a rate. -/
def rawOf (o : Observation) (ds : DataSource) : Bool :=
  ds.value.kind != .gauge && o.rate?.isNone

def isRaw (o : Observation) : Except SeriesError Bool :=
  o.dataSource.map o.rawOf

/-- The text a part of a name pattern stands for. -/
def partText (o : Observation) (ds : DataSource) : NamePart → String
  | .literal text => text
  | .plugin => o.sample.plugin
  | .pluginInstance => o.sample.pluginInstance
  | .type => o.sample.typeName
  | .typeInstance => o.sample.typeInstance
  | .dataSource => if Text.eqIgnoreCase ds.name "value" then "" else ds.name
  | .raw => if o.rawOf ds then "raw" else ""

/-- The name so far with the segments of a pattern. -/
def extend (o : Observation) (ds : DataSource) (name : String) : Pattern → Except NameError String
  | [] => .ok name
  | part :: rest => do
    let name ← MetricName.push o.nameLimit name (o.partText ds part)
    o.extend ds name rest

/-- The metric name that a pattern spells. -/
def metricName (o : Observation) (pattern : Pattern) : Except SeriesError String := do
  let ds ← o.dataSource
  let named : Except NameError String := do
    let name ← MetricName.start o.nameLimit o.namePrefix
    let name ← o.extend ds name pattern
    MetricName.finish name
  named.mapError .name

/-- The tags that describe the metric of a value. -/
def metricTags (o : Observation) (ds : DataSource) : Tags :=
  .ofPairs [("plugin", o.sample.plugin), ("type", o.sample.typeName), ("type_instance", o.sample.typeInstance),
    ("data_source", ds.name), ("data_type", ds.value.kind.name)]

/-- The series of a pattern.  Its value is that of the observation put through `transform`, and it names the
instance of the plugin where asked to. -/
def series (o : Observation) (pattern : Pattern) (instanceTag : Bool) (transform : String → String) :
    Except SeriesError Series := do
  let ds ← o.dataSource
  let metric ← o.metricName pattern
  return {
    entity := o.entity
    metric := metric
    value := transform o.text
    metricTags := o.metricTags ds
    seriesTags :=
      if instanceTag && !o.sample.pluginInstance.isEmpty then
        Tags.add [] "instance" o.sample.pluginInstance
      else []
    time := o.sample.time }

end Observation

namespace Series

/-- The most series one value may give. -/
def maxPerValue : Nat := 2

/-- The series of a value with one more. -/
def append (all : List Series) (s : Series) : Except SeriesError (List Series) :=
  if maxPerValue ≤ all.length then .error (.tooMany maxPerValue) else .ok (all ++ [s])

end Series

end MetricFeed
