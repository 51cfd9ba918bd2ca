import MetricFeed.Settings.Basic

/-!
# Reading settings from a document

Settings are read the same way from documents of different formats.  A `Form` says how values of one format are
taken for texts, numbers, lists and records; `Settings.read` reads the fields in the order of the document, so of
two faults the first one counts.
-/

namespace MetricFeed

/-- A port as a document gives it. -/
inductive PortText where
  | number (n : Nat)
  | name (s : String)

/-- How the values of a document format are read; `none` where a value has the wrong form. -/
structure Form (V : Type) where
  /-- The entries of a record with these field names, in the order of the document. -/
  entries? : List String → V → Option (List (Option String × V))
  items? : V → Option (List V)
  text? : V → Option String
  optionalText? : V → Option (Option String)
  flag? : V → Option Bool
  /-- A whole number of 64 bits. -/
  count? : V → Option Nat
  real? : V → Option Float
  port? : V → Option PortText

namespace Form

variable {V : Type}

/-- A value that must have the form. -/
def need {α : Type} : Option α → Except SettingsError α
  | some a => .ok a
  | none => .error .malformed

/-- The fields of a record put into `start` one after the other.  A field without a name, one that is not among
`names` and a repeated one are refused. -/
def readFields {S : Type} (names : List String) (set : S → String → V → Except SettingsError S) (seen : List String)
    (start : S) : List (Option String × V) → Except SettingsError S
  | [] => .ok start
  | (none, _) :: _ => .error .malformed
  | (some key, value) :: rest =>
    if !names.contains key || seen.contains key then .error .malformed
    else do
      let s ← set start key value
      readFields names set (key :: seen) s rest

def readRecord {S : Type} (form : Form V) (names : List String) (set : S → String → V → Except SettingsError S)
    (start : S) (v : V) : Except SettingsError S := do
  let entries ← need (form.entries? names v)
  readFields names set [] start entries

/-! ### The node -/

def readPort (form : Form V) (services : Services) (v : V) : Except SettingsError Nat := do
  match ← need (form.port? v) with
  | .number n => return n
  | .name s => match services.port? (Text.trim s) with
    | some n => return n
    | none => throw (.unknownPort s)

def readProtocol (form : Form V) (v : V) : Except SettingsError Protocol := do
  let s ← need (form.text? v)
  match Protocol.ofText? s with
  | some p => return p
  | none => throw (.unknownProtocol s)

def nodeNames : List String :=
  ["name", "host", "port", "protocol", "entity", "prefix", "short_hostname", "buffer_size", "flush_interval_ms",
   "min_reconnect_interval_ms", "connect_timeout_ms", "max_metric_name_len", "metric_definitions",
   "property_interval_secs"]

def setNode (form : Form V) (services : Services) (n : NodeSettings) (key : String) (v : V) :
    Except SettingsError NodeSettings :=
  match key with
  | "name" => return { n with name := ← need (form.optionalText? v) }
  | "host" => return { n with host := ← need (form.text? v) }
  | "port" => return { n with port := ← form.readPort services v }
  | "protocol" => return { n with protocol := ← form.readProtocol v }
  | "entity" => return { n with entity := ← need (form.optionalText? v) }
  | "prefix" => return { n with namePrefix := ← need (form.text? v) }
  | "short_hostname" => return { n with shortHostname := ← need (form.flag? v) }
  | "buffer_size" => return { n with bufferSize := ← need (form.count? v) }
  | "flush_interval_ms" => return { n with flushInterval := ← need (form.count? v) }
  | "min_reconnect_interval_ms" => return { n with minReconnectInterval := ← need (form.count? v) }
  | "connect_timeout_ms" => return { n with connectTimeout := ← need (form.count? v) }
  | "max_metric_name_len" => return { n with maxNameLength := ← need (form.count? v) }
  | "metric_definitions" => return { n with metricDefinitions := ← need (form.flag? v) }
  | _ => return { n with propertyInterval := ← need (form.count? v) }

def readNode (form : Form V) (services : Services) (v : V) : Except SettingsError NodeSettings :=
  form.readRecord nodeNames (form.setNode services) {} v

/-! ### Policies -/

structure PolicyFields where
  plugin : Option String := none
  interval : Option Nat := none
  threshold : Option Float := none

def setPolicy (form : Form V) (p : PolicyFields) (key : String) (v : V) : Except SettingsError PolicyFields :=
  match key with
  | "plugin" => return { p with plugin := ← need (form.text? v) }
  | "interval_secs" => return { p with interval := ← need (form.count? v) }
  | _ => return { p with threshold := ← need (form.real? v) }

def readPolicy (form : Form V) (v : V) : Except SettingsError PluginPolicy := do
  let p ← form.readRecord ["plugin", "interval_secs", "threshold_percent"] form.setPolicy {} v
  return ⟨← need p.plugin, ⟨← need p.interval, ← need p.threshold⟩⟩

def readPolicies (form : Form V) (v : V) : Except SettingsError (List PluginPolicy) := do
  let items ← need (form.items? v)
  items.mapM form.readPolicy

/-! ### All settings -/

def setPart (form : Form V) (services : Services) (s : Settings) (key : String) (v : V) :
    Except SettingsError Settings :=
  match key with
  | "node" => return { s with node := ← form.readNode services v }
  | _ => return { s with policies := ← form.readPolicies v }

/-- The settings a document value holds, not validated. -/
def readSettings (form : Form V) (services : Services) (v : V) : Except SettingsError Settings :=
  form.readRecord ["node", "cache"] (form.setPart services) {} v

end Form

/-- Settings that are accepted. -/
def Settings.accept (s : Settings) : Except SettingsError Settings :=
  match s.validate with
  | .ok () => .ok s
  | .error fault => .error (.invalid fault)

end MetricFeed
