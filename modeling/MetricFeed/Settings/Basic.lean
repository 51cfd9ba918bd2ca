import MetricFeed.ChangeFilter
import MetricFeed.Name
import MetricFeed.Protocol
import MetricFeed.Time

/-!
# Settings

What a writer is told: the node it delivers to, how names are made, how lines are batched, and which plugins have
unchanged values suppressed.  `validate` accepts settings whose numbers are in range and whose policies name
different plugins.
-/

namespace MetricFeed

/-- The most bytes of a datagram, and the default size of a send buffer. -/
def maxDatagram : Nat := 1428

/-- The longest time between two properties, in seconds. -/
def maxPropertyInterval : Nat := 300

/-- Where lines are delivered. -/
structure Target where
  host : String
  port : Nat
  protocol : Protocol
  deriving DecidableEq

def Target.display (t : Target) : String :=
  t.host ++ ":" ++ toString t.port ++ " via " ++ t.protocol.name

/-- A node and how it is written to. -/
structure NodeSettings where
  name : Option String := none
  host : String := "localhost"
  port : Nat := 8081
  protocol : Protocol := .tcp
  /-- The entity of every sample. -/
  entity : Option String := none
  namePrefix : String := ""
  shortHostname : Bool := false
  bufferSize : Nat := maxDatagram
  /-- In milliseconds; 0 writes what is pending before every line. -/
  flushInterval : Nat := 0
  /-- In milliseconds. -/
  minReconnectInterval : Nat := 1000
  /-- In milliseconds; 0 waits without limit. -/
  connectTimeout : Nat := 5000
  maxNameLength : Nat := maxFieldLength
  /-- Describe a metric before its first value. -/
  metricDefinitions : Bool := true
  /-- In seconds. -/
  propertyInterval : Nat := maxPropertyInterval

structure PluginPolicy where
  plugin : String
  policy : Policy

structure Settings where
  node : NodeSettings := {}
  policies : List PluginPolicy := []

/-- What is wrong with settings that could be read. -/
inductive SettingsFault where
  | hostEmpty
  | portZero
  | bufferSizeZero
  | nameLengthZero
  | propertyInterval
  | policyWithoutPlugin
  | threshold (plugin : String)
  | repeatedPlugin (plugin : String)
  deriving DecidableEq

inductive SettingsError where
  /-- The file cannot be read as text. -/
  | unreadable
  /-- The document is broken, or does not have the form of settings. -/
  | malformed
  | unknownPort (text : String)
  | unknownProtocol (text : String)
  | invalid (fault : SettingsFault)
  deriving DecidableEq

def SettingsFault.message : SettingsFault → String
  | .hostEmpty => "node.host is empty"
  | .portZero => "node.port must be non-zero"
  | .bufferSizeZero => "node.buffer_size must be non-zero"
  | .nameLengthZero => "node.max_metric_name_len must be non-zero"
  | .propertyInterval => "node.property_interval_secs must be in 1..=" ++ toString maxPropertyInterval
  | .policyWithoutPlugin => "cache policy without plugin"
  | .threshold plugin => "cache policy '" ++ plugin ++ "': threshold_percent must be a non-negative number"
  | .repeatedPlugin plugin => "duplicate cache policy for plugin '" ++ plugin ++ "'"

def SettingsError.message : SettingsError → String
  | .unreadable => "I/O error"
  | .malformed => "parse error"
  | .unknownPort text => "unknown service or port '" ++ text ++ "'"
  | .unknownProtocol text => Protocol.unknown text
  | .invalid fault => "invalid configuration: " ++ fault.message

namespace NodeSettings

/-- The name used in logs. -/
def destination (n : NodeSettings) : String :=
  match n.name.filter fun name => !name.isEmpty with
  | some name => name
  | none => "atsd/" ++ n.host ++ "/" ++ toString n.port ++ "/" ++ n.protocol.name

def target (n : NodeSettings) : Target :=
  ⟨n.host, n.port, n.protocol⟩

/-- In milliseconds, unless waiting is without limit. -/
def connectLimit? (n : NodeSettings) : Option Nat :=
  if n.connectTimeout = 0 then none else some n.connectTimeout

def validate (n : NodeSettings) : Except SettingsFault Unit :=
  if Text.allBlank n.host then .error .hostEmpty
  else if n.port = 0 then .error .portZero
  else if n.bufferSize = 0 then .error .bufferSizeZero
  else if n.maxNameLength = 0 then .error .nameLengthZero
  else if n.propertyInterval = 0 || maxPropertyInterval < n.propertyInterval then .error .propertyInterval
  else .ok ()

end NodeSettings

/-- A threshold is a finite number that is not negative. -/
def Policy.isValid (p : Policy) : Bool :=
  p.threshold.isFinite && !(p.threshold < 0)

namespace Settings

/-- Policies name different plugins, none of which is among `seen`. -/
def validatePolicies (seen : List String) : List PluginPolicy → Except SettingsFault Unit
  | [] => .ok ()
  | p :: ps =>
    if p.plugin.isEmpty then .error .policyWithoutPlugin
    else if !p.policy.isValid then .error (.threshold p.plugin)
    else if seen.contains p.plugin then .error (.repeatedPlugin p.plugin)
    else validatePolicies (p.plugin :: seen) ps

def validate (s : Settings) : Except SettingsFault Unit := do
  s.node.validate
  validatePolicies [] s.policies

/-- The filter of unchanged values that the policies ask for. -/
def filter (s : Settings) : ChangeFilter :=
  { policies := s.policies.map fun p => (p.plugin, p.policy) }

end Settings

end MetricFeed
