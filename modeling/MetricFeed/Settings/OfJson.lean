import MetricFeed.Json.Value
import MetricFeed.Settings.Form

/-!
# Settings in JSON

Records may be objects, or arrays with the fields in their order; numbers are numbers and texts are strings.
-/

namespace MetricFeed.Json

def count? (j : Json) : Option Nat :=
  match j.number? with
  | some (.natural n) => some n.toNat
  | _ => none

def port? (j : Json) : Option PortText :=
  match j with
  | .string (some s) => some (.name s)
  | j => match j.count? with
    | some n => if n ≤ Services.maxPort then some (.number n) else none
    | none => none

def form : Form Json where
  entries? := entries?
  items? := items?
  text? := text?
  optionalText? := optional? text?
  flag? := bool?
  count? := count?
  real? := float?
  port? := port?

end MetricFeed.Json

namespace MetricFeed

/-- The settings of a JSON value. -/
def Settings.ofJson (services : Services) (j : Json) : Except SettingsError Settings := do
  let s ← Json.form.readSettings services j
  s.accept

end MetricFeed
