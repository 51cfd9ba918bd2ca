import MetricFeed.Series
import MetricFeed.Text.Split

/-!
# Rules

A rule turns one value into its series.  The rules stand in order of precedence and the first that applies is used;
the last one always applies.  Idle processor time and free disk space give a second series of the opposite
quantity, and a value of `exec` carries its tags in its type instance.
-/

namespace MetricFeed

/-- `plugin.type.typeInstance.dataSource.raw` -/
def Pattern.default : Pattern := [.plugin, .type, .typeInstance, .dataSource, .raw]

structure Rule where
  name : String
  applies : Observation → Bool
  expand : Observation → Except SeriesError (List Series)

namespace Rule

def expandDefault (o : Observation) (before : List Series) : Except SeriesError (List Series) := do
  let s ← o.series .default true id
  Series.append before s

/-! ### Idle processor time -/

def isIdleRate (o : Observation) : Bool :=
  o.rate?.isSome && Text.eqIgnoreCase o.sample.plugin "cpu" && Text.eqIgnoreCase o.sample.typeInstance "idle"

def busyPattern : Pattern := [.plugin, .type, .literal "busy"]

def expandIdle (o : Observation) : Except SeriesError (List Series) := do
  let busy ← o.series busyPattern true inverted
  let all ← Series.append [] busy
  expandDefault o all

/-! ### Disk space -/

def isDisk (o : Observation) : Bool :=
  Text.eqIgnoreCase o.sample.plugin "df"

/-- The label that holds the mount point as it was before escaping. -/
def mountLabel : String := "df:unescaped_plugin_instance"

def usedPattern : Pattern := [.plugin, .type, .literal "used_reserved"]

def isFreePercent (s : Sample) : Bool :=
  Text.eqIgnoreCase s.typeName "percent_bytes" && Text.eqIgnoreCase s.typeInstance "free"

/-- The first series of a disk names its mount point. -/
def withMount (s : Sample) (x : Series) : Series :=
  match s.label? mountLabel with
  | some mount => { x with seriesTags := x.seriesTags.add "disk_name" mount }
  | none => x

def expandDisk (o : Observation) : Except SeriesError (List Series) := do
  if isFreePercent o.sample then
    let used ← o.series usedPattern true inverted
    let all ← Series.append [] (withMount o.sample used)
    expandDefault o all
  else
    let s ← o.series .default true id
    Series.append [] (withMount o.sample s)

/-! ### Values of a program -/

def isExec (o : Observation) : Bool :=
  Text.eqIgnoreCase o.sample.plugin "exec"

def execPattern : Pattern := [.pluginInstance, .raw]

/-- The tags of a type instance: a tag for each entry `key=value` between semicolons, or the whole text as the
instance where there is no semicolon. -/
def execTags (typeInstance : String) : Tags :=
  if typeInstance.toList.contains ';' then
    .ofPairs ((Text.pieces ';' typeInstance.toList).filterMap fun entry =>
      (Text.cut? '=' entry).map fun p => (String.ofList p.1, String.ofList p.2))
  else Tags.add [] "instance" typeInstance

def expandExec (o : Observation) : Except SeriesError (List Series) := do
  let s ← o.series execPattern false id
  Series.append [] { s with seriesTags := execTags o.sample.typeInstance }

/-! ### The table -/

def table : List Rule :=
  [{ name := "cpu-busy", applies := isIdleRate, expand := expandIdle },
   { name := "df", applies := isDisk, expand := expandDisk },
   { name := "exec", applies := isExec, expand := expandExec },
   { name := "default", applies := fun _ => true, expand := fun o => expandDefault o [] }]

/-- The rule that a value falls under. -/
def find? (o : Observation) : Option Rule :=
  table.find? fun r => r.applies o

end Rule

/-- The series of a value. -/
def Observation.derive (o : Observation) : Except SeriesError (List Series) :=
  match Rule.find? o with
  | some r => r.expand o
  | none => .ok []

end MetricFeed
