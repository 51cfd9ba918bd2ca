import MetricFeed.Writer.Basic

/-!
# Writing samples

The values of a sample are written one after the other.  A value without a rate yet is skipped, one that has hardly
changed is suppressed, and an error in the data of one value rejects that value alone; any other error ends the
sample.
-/

namespace MetricFeed

/-- A writer in the course of a sample. -/
structure Work where
  writer : Writer
  report : Report := {}

namespace Work

def countLine (k : Work) : Work :=
  { k with report := { k.report with lines := k.report.lines + 1 } }

/-- Hand a command to the channel and count its line. -/
def send (k : Work) (c : Command) (w : World) : Attempt WriteError Work Unit :=
  ((k.writer.sendCommand c w).within fun writer => { k with writer }).andThen fun _ k w =>
  .done () k.countLine w

def markDescribed (k : Work) (metric : String) : Work :=
  { k with writer := { k.writer with described := k.writer.described.insert metric } }

/-- Describe the metric of a series, if that is wanted and was not done before. -/
def describe (k : Work) (s : Series) (w : World) : Attempt WriteError Work Unit :=
  if k.writer.node.metricDefinitions && !k.writer.described.contains s.metric then
    (k.send s.definition w).andThen fun _ k w =>
    .done () (k.markDescribed s.metric) w
  else .done () k w

def sendSeries (k : Work) (s : Series) (w : World) : Attempt WriteError Work Unit :=
  (k.describe s w).andThen fun _ k w =>
  k.send s.command w

def sendAll (k : Work) (all : List Series) (w : World) : Attempt WriteError Work Unit :=
  match all with
  | [] => .done () k w
  | s :: rest =>
    (k.sendSeries s w).andThen fun _ k w =>
    k.sendAll rest w

/-- Write the series of an observation. -/
def writeObservation (k : Work) (o : Observation) (w : World) : Attempt WriteError Work Unit :=
  match o.derive with
  | .ok all => k.sendAll all w
  | .error e => .fail (.series e) k w

/-- What is known of the value at `index`, its text given. -/
def observe (k : Work) (s : Sample) (entity : String) (index : Nat) (text : String) : Observation where
  sample := s
  index := index
  entity := entity
  namePrefix := k.writer.node.namePrefix
  nameLimit := k.writer.node.maxNameLength
  text := text

/-- Turn an error in the data of a value into a rejection. -/
def settle (s : Sample) (ds : DataSource) (r : Attempt WriteError Work Unit) : Attempt WriteError Work Unit :=
  match r.result with
  | .ok () => r
  | .error e =>
    if e.errorClass = .lasting then
      let k := r.state
      let fields := [("plugin", s.plugin), ("type_name", s.typeName), ("data_source", ds.name), ("error", e.message)]
      .done () { k with report := { k.report with rejected := k.report.rejected + 1 } }
        (k.writer.log r.world .warn "value rejected" fields)
    else r

/-- Write one value. -/
def writeValue (k : Work) (s : Sample) (entity : String) (index : Nat) (ds : DataSource) (w : World) :
    Attempt WriteError Work Unit :=
  let rate := s.rate? index
  if rate.any Float.isNaN then
    .done () { k with report := { k.report with skipped := k.report.skipped + 1 } } w
  else
    let text := ds.value.text rate
    let (checked, filter) := k.writer.filter.check s.key text s.time
    let k := { k with writer := { k.writer with filter } }
    match checked with
    | .error e => .fail (.filter e) k w
    | .ok .suppress => .done () { k with report := { k.report with suppressed := k.report.suppressed + 1 } } w
    | .ok .send => settle s ds (k.writeObservation (k.observe s entity index text) w)

/-- Write the values that stand from `index` on. -/
def writeValues (k : Work) (s : Sample) (entity : String) (index : Nat) (values : List DataSource) (w : World) :
    Attempt WriteError Work Unit :=
  match values with
  | [] => .done () k w
  | ds :: rest =>
    (k.writeValue s entity index ds w).andThen fun _ k w =>
    k.writeValues s entity (index + 1) rest w

def writeSample (k : Work) (s : Sample) (entity : String) (w : World) : Attempt WriteError Work Unit :=
  if k.writer.channel.closed then .fail (.delivery .closed) k w
  else k.writeValues s entity 0 s.values w

end Work

namespace Writer

/-- The entity of a valid sample. -/
def prepare (x : Writer) (s : Sample) (w : World) : Except WriteError String :=
  match s.validate with
  | .error e => .error (.sample e)
  | .ok () =>
    (Entity.resolve w.machine (x.node.entity.or s.entityHint) s.host x.node.shortHostname).mapError .name

/-- Note why a sample was given up. -/
def logFailure (x : Writer) (s : Sample) (e : WriteError) (w : World) : World :=
  let full := [("plugin", s.plugin), ("type_name", s.typeName), ("error", e.message)]
  match e.errorClass, e with
  | .transient, .delivery (.tryLater _) =>
    x.log w .debug "reconnect throttled, sample dropped" [("plugin", s.plugin)]
  | .transient, _ => x.log w .warn "sample dropped" full
  | .inconsistent, _ =>
    x.log w .error "dedup cache inconsistency" [("plugin", s.plugin), ("error", e.message)]
  | .lasting, _ => x.log w .warn "sample rejected" [("plugin", s.plugin), ("error", e.message)]

def addReport (x : Writer) (r : Report) : Writer :=
  { x with counts := x.counts.add r }

/-- Write every value of a sample. -/
def write (x : Writer) (s : Sample) (w : World) : Attempt WriteError Writer Report :=
  match x.prepare s w with
  | .error e =>
    let fields := [("plugin", s.plugin), ("type_name", s.typeName), ("error", e.message)]
    .fail e { x with counts := { x.counts with samplesRejected := x.counts.samplesRejected + 1 } }
      (x.log w .warn "sample rejected" fields)
  | .ok entity =>
    let r := ({ writer := x } : Work).writeSample s entity w
    let report := r.state.report
    let x := r.state.writer.addReport report
    match r.result with
    | .ok () =>
      .done report { x with counts := { x.counts with samplesWritten := x.counts.samplesWritten + 1 } } r.world
    | .error e => .fail e (x.countError e) (x.logFailure s e r.world)

end Writer

end MetricFeed
