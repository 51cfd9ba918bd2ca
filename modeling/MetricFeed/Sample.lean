import MetricFeed.Text.Ascii
import MetricFeed.Text.Blank

/-!
# Samples

A sample is one observation of a plugin on a host: named values of four kinds, at most one precomputed rate per
value, and free text labels.  The kind of a value is carried by the value itself.
-/

namespace MetricFeed

/-- What a value counts. -/
inductive Kind where
  | gauge
  | counter
  | derive
  | absolute
  deriving DecidableEq

inductive SampleError where
  | unknownKind (text : String)
  | rateCount (rates values : Nat)
  deriving DecidableEq

def SampleError.message : SampleError → String
  | .unknownKind text => "unknown data source kind: " ++ text
  | .rateCount rates values => toString rates ++ " rates supplied for " ++ toString values ++ " data sources"

namespace Kind

def name : Kind → String
  | .gauge => "gauge"
  | .counter => "counter"
  | .derive => "derive"
  | .absolute => "absolute"

def all : List Kind :=
  [.gauge, .counter, .derive, .absolute]

/-- The kind with this name, ignoring case and blanks around it. -/
def ofText? (s : String) : Option Kind :=
  all.find? fun k => Text.eqIgnoreCase k.name (Text.trim s)

def ofText (s : String) : Except SampleError Kind :=
  match ofText? s with
  | some k => .ok k
  | none => .error (.unknownKind s)

end Kind

inductive Value where
  | gauge (v : Float)
  | counter (n : UInt64)
  | derive (n : Int64)
  | absolute (n : UInt64)

def Value.kind : Value → Kind
  | .gauge _ => .gauge
  | .counter _ => .counter
  | .derive _ => .derive
  | .absolute _ => .absolute

/-- A value under its name in the sample. -/
structure DataSource where
  name : String
  value : Value

structure Sample where
  entityHint : Option String := none
  host : String
  plugin : String
  pluginInstance : String := ""
  typeName : String
  typeInstance : String := ""
  /-- Milliseconds since 1970. -/
  time : Nat := 0
  values : List DataSource := []
  /-- One per value; NaN where there is no rate yet. -/
  rates : Option (List Float) := none
  labels : List (String × String) := []

namespace Sample

def rate? (s : Sample) (index : Nat) : Option Float :=
  s.rates.bind fun rates => rates[index]?

/-- The text under a label; a later entry replaces an earlier one. -/
def label? (s : Sample) (key : String) : Option String :=
  s.labels.reverse.lookup key

/-- Rates, if there are any, come one per value. -/
def validate (s : Sample) : Except SampleError Unit :=
  match s.rates with
  | some rates =>
    if rates.length = s.values.length then .ok () else .error (.rateCount rates.length s.values.length)
  | none => .ok ()

end Sample

end MetricFeed
