import MetricFeed.Text.Utf8
import MetricFeed.Yaml.Scalar

/-!
# Settings in YAML

Records are mappings and lists are sequences; a field that is left empty is an empty record or list.  An alias is
read as the node it stands for.
-/

namespace MetricFeed.Yaml.Document

/-- The text of a scalar. -/
def text? (d : Document) (n : Node) : Option String :=
  match d.resolve n with
  | .scalar _ _ s => some s
  | _ => none

/-- The text of a scalar that may be read as a type of the core schema: a plain one, or a literal one with the tag
of the type. -/
def typed? (d : Document) (type : String) (n : Node) : Option String :=
  match d.resolve n with
  | .scalar .plain _ s => some s
  | .scalar .literal tag s => if tag = coreTag type then some s else none
  | _ => none

/-- A scalar that is left out, or nothing at all. -/
def isEmpty (d : Document) (n : Node) : Bool :=
  match d.resolve n with
  | .scalar .plain _ s => s.isEmpty
  | .void => true
  | _ => false

def entries? (d : Document) (n : Node) : Option (List (Option String × Node)) :=
  match d.resolve n with
  | .mapping entries => some (entries.map fun e => (d.text? e.1, e.2))
  | n => if d.isEmpty n then some [] else none

def items? (d : Document) (n : Node) : Option (List Node) :=
  match d.resolve n with
  | .sequence items => some items
  | n => if d.isEmpty n then some [] else none

def optionalText? (d : Document) (n : Node) : Option (Option String) :=
  match d.resolve n with
  | .void => some none
  | .scalar .plain tag s =>
    if tag = coreTag "null" then if isNullWord s then some none else none
    else if tag = none && (s.isEmpty || isNullWord s) then some none
    else some (some s)
  | n => (d.text? n).map some

def count? (d : Document) (n : Node) : Option Nat :=
  ((d.typed? "int" n).bind natural?).filter fun n => n ≤ 0xFFFFFFFFFFFFFFFF

/-- A port is a number or a name; a scalar of another type, or one with a tag of the document's own, is neither. -/
def port? (d : Document) (n : Node) : Option PortText :=
  match d.resolve n with
  | .scalar style tag s =>
    if isNamedTag tag then none
    else match guessTagged style tag s with
      | some .text => some (.name s)
      | some (.whole (.natural n)) => if n ≤ Services.maxPort then some (.number n) else none
      | _ => none
  | _ => none

def form (d : Document) : Form Node where
  entries? _ := d.entries?
  items? := d.items?
  text? := d.text?
  optionalText? := d.optionalText?
  flag? n := (d.typed? "bool" n).bind truthWord?
  count? := d.count?
  real? n := (d.typed? "float" n).bind real?
  port? := d.port?

end MetricFeed.Yaml.Document

namespace MetricFeed

/-- The settings of a YAML text, which must be a single document. -/
def Settings.ofYaml (services : Services) (text : String) : Except SettingsError Settings := do
  let d := Yaml.Document.ofText text
  let s ← d.form.readSettings services d.root
  if d.whole then s.accept else throw .malformed

/-- The settings of a file with these bytes. -/
def Settings.ofFile (services : Services) (bytes : List UInt8) : Except SettingsError Settings :=
  match Text.ofBytes? bytes with
  | some text => Settings.ofYaml services text
  | none => .error .unreadable

end MetricFeed
