import MetricFeed.Proofs.WriterMoves

/-!
# What is put into words

A scribe is a writer without a channel: it renders the command lines of samples and properties and leaves their
delivery to others.  It sees only the settings that bear on the wording (`Wording`), and no clock.  What it renders for
a list of requests is their `Transcript`.
-/

namespace MetricFeed

/-- The settings that bear on what is rendered. -/
structure Wording where
  entity : Option String
  namePrefix : String
  shortHostname : Bool
  maxNameLength : Nat
  metricDefinitions : Bool

def NodeSettings.wording (n : NodeSettings) : Wording :=
  ⟨n.entity, n.namePrefix, n.shortHostname, n.maxNameLength, n.metricDefinitions⟩

structure Scribe where
  wording : Wording
  filter : ChangeFilter
  described : Std.HashSet String := {}
  /-- Of the sample at hand. -/
  report : Report := {}

/-! ### Drafts -/

/-- What a scribe gives: a result, the scribe afterwards and the lines rendered, in order. -/
structure Draft (α : Type) where
  result : Except WriteError α
  scribe : Scribe
  lines : List String

namespace Draft

variable {α β : Type}

def done (a : α) (k : Scribe) : Draft α := ⟨.ok a, k, []⟩

def fail (e : WriteError) (k : Scribe) : Draft α := ⟨.error e, k, []⟩

/-- Go on with `next` after a success. -/
def andThen (d : Draft α) (next : α → Scribe → Draft β) : Draft β :=
  match d.result with
  | .ok a => ⟨(next a d.scribe).result, (next a d.scribe).scribe, d.lines ++ (next a d.scribe).lines⟩
  | .error e => ⟨.error e, d.scribe, d.lines⟩

end Draft

/-! ### Samples -/

namespace Scribe

def countLine (k : Scribe) : Scribe :=
  { k with report := { k.report with lines := k.report.lines + 1 } }

def markDescribed (k : Scribe) (metric : String) : Scribe :=
  { k with described := k.described.insert metric }

/-- Render the line of a command and count it. -/
def say (k : Scribe) (c : Command) : Draft Unit :=
  match c.line with
  | .ok line => ⟨.ok (), k.countLine, [line]⟩
  | .error e => .fail (.command e) k

def describe (k : Scribe) (s : Series) : Draft Unit :=
  if k.wording.metricDefinitions && !k.described.contains s.metric then
    (k.say s.definition).andThen fun _ k => .done () (k.markDescribed s.metric)
  else .done () k

def saySeries (k : Scribe) (s : Series) : Draft Unit :=
  (k.describe s).andThen fun _ k => k.say s.command

def sayAll (k : Scribe) (all : List Series) : Draft Unit :=
  match all with
  | [] => .done () k
  | s :: rest => (k.saySeries s).andThen fun _ k => k.sayAll rest

def sayObservation (k : Scribe) (o : Observation) : Draft Unit :=
  match o.derive with
  | .ok all => k.sayAll all
  | .error e => .fail (.series e) k

/-- Turn an error in the data of a value into a rejection. -/
def settle (d : Draft Unit) : Draft Unit :=
  match d.result with
  | .ok () => d
  | .error e =>
    if e.errorClass = .lasting then
      let k := d.scribe
      ⟨.ok (), { k with report := { k.report with rejected := k.report.rejected + 1 } }, d.lines⟩
    else d

def observe (k : Scribe) (s : Sample) (entity : String) (index : Nat) (text : String) : Observation where
  sample := s
  index := index
  entity := entity
  namePrefix := k.wording.namePrefix
  nameLimit := k.wording.maxNameLength
  text := text

/-- Render one value. -/
def sayValue (k : Scribe) (s : Sample) (entity : String) (index : Nat) (ds : DataSource) : Draft Unit :=
  let rate := s.rate? index
  if rate.any Float.isNaN then .done () { k with report := { k.report with skipped := k.report.skipped + 1 } }
  else
    let text := ds.value.text rate
    let (checked, filter) := k.filter.check s.key text s.time
    let k := { k with filter }
    match checked with
    | .error e => .fail (.filter e) k
    | .ok .suppress => .done () { k with report := { k.report with suppressed := k.report.suppressed + 1 } }
    | .ok .send => settle (k.sayObservation (k.observe s entity index text))

/-- Render the values that stand from `index` on. -/
def sayValues (k : Scribe) (s : Sample) (entity : String) (index : Nat) (values : List DataSource) : Draft Unit :=
  match values with
  | [] => .done () k
  | ds :: rest => (k.sayValue s entity index ds).andThen fun _ k => k.sayValues s entity (index + 1) rest

def prepare (k : Scribe) (s : Sample) (machine : HostAnswer) : Except WriteError String :=
  match s.validate with
  | .error e => .error (.sample e)
  | .ok () => (Entity.resolve machine (k.wording.entity.or s.entityHint) s.host k.wording.shortHostname).mapError .name

/-- Render every value of a sample; the report is begun anew. -/
def saySample (k : Scribe) (s : Sample) (machine : HostAnswer) : Draft Report :=
  match k.prepare s machine with
  | .error e => .fail e k
  | .ok entity =>
    let d := k.sayValues s entity 0 s.values
    ⟨d.result.map fun _ => d.scribe.report, { d.scribe with report := {} }, d.lines⟩

/-! ### Properties -/

def sayProperty (k : Scribe) (p : Property) (machine : HostAnswer) : Draft Unit :=
  match Entity.resolve machine k.wording.entity p.host k.wording.shortHostname with
  | .error e => .fail (.name e) k
  | .ok entity => match (p.command entity).line with
    | .error e => .fail (.command e) k
    | .ok line => ⟨.ok (), k, [line]⟩

end Scribe

/-! ### Requests -/

/-- What a writer may be asked to say.  A property brings its time along, so that no clock is asked. -/
inductive Writer.Request where
  | sample (s : Sample)
  | property (p : Property) (timed : p.time ≠ 0)

def Writer.Request.op : Writer.Request → Writer.Op
  | .sample s => .write s
  | .property p _ => .property p

def Scribe.answer (k : Scribe) (q : Writer.Request) (machine : HostAnswer) : Draft Writer.Answer :=
  match q with
  | .sample s => (k.saySample s machine).andThen fun r k => .done (.report r) k
  | .property p _ => (k.sayProperty p machine).andThen fun _ k => .done .finished k

/-- What comes of several requests: every operation with its result, and the lines of all, in order. -/
structure Transcript where
  results : List (Writer.Op × Except WriteError Writer.Answer) := []
  lines : List String := []

/-- The transcript of the requests, each with what the machine answers at that point. -/
def Scribe.transcript (k : Scribe) : List (Writer.Request × HostAnswer) → Transcript
  | [] => {}
  | (q, machine) :: rest =>
    let d := k.answer q machine
    let t := d.scribe.transcript rest
    ⟨(q.op, d.result) :: t.results, d.lines ++ t.lines⟩

/-- The scribe of a writer that has not written anything yet. -/
def Settings.scribe (s : Settings) : Scribe :=
  { wording := s.node.wording, filter := s.filter }

end MetricFeed
