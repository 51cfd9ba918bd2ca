import MetricFeed.Proofs.Tallies

/-!
# What a rejected value leaves behind

The commands of a value are handed over one after the other, and the first one that cannot be accepted rejects the
value.  Those before it are not taken back: their lines are accepted, and the metrics they define are described
(`Writer.left_of_rejected`).  Nothing is left if the series of the value cannot be derived, or if the first of its
commands fails.
-/

namespace MetricFeed

namespace Memory

theorem mem_described_learn (m : Memory) (told : List Command) (metric : String) :
    metric ∈ (m.learn told).described ↔ metric ∈ m.described ∨ metric ∈ told.filterMap Command.defined? := by
  unfold learn
  dsimp only
  generalize told.filterMap Command.defined? = defined
  generalize m.described = described
  induction defined generalizing described with
  | nil => simp
  | cons first rest ih =>
    rw [List.foldl_cons, ih, Std.HashSet.mem_insert, List.mem_cons, beq_iff_eq, @eq_comm _ first, or_assoc]
    exact or_left_comm

/-- Which commands are told does not depend on the values sent. -/
theorem tellAll_filter (on : Bool) (m : Memory) (filter : ChangeFilter) (all : List Series) :
    ({ m with filter } : Memory).tellAll on all = m.tellAll on all := by
  induction all generalizing m with
  | nil => rfl
  | cons s rest ih => exact congrArg (m.tell on s ++ ·) (ih (m.learn (m.tell on s)))

end Memory

namespace Work

variable {capacity : Nat} {k : Work} {w : World}

/-- A value was rejected after these of its commands: their lines are accepted, and the metrics they define are
described. -/
structure Leaves (k : Work) (w : World) (told : List Command) (r : Attempt WriteError Work Unit) : Prop where
  result : r.result = .ok ()
  report : r.state.report =
    { k.report with lines := k.report.lines + told.length, rejected := k.report.rejected + 1 }
  accepted : ∃ lines, told.map Command.line = lines.map Except.ok ∧ r.world.acceptedLines = w.acceptedLines ++ lines
  described : ∀ m, m ∈ r.state.writer.described ↔ m ∈ k.writer.described ∨ m ∈ told.filterMap Command.defined?

/-- These commands were accepted, and the next one of the series cannot be. -/
def Stuck (capacity : Nat) (k : Work) (all : List Series) (told : List Command) : Prop :=
  ∃ c rest, k.memory.tellAll k.writer.node.metricDefinitions all = told ++ c :: rest ∧
    (∀ d ∈ told, d.fits capacity = true) ∧ c.fits capacity = false

/-- Only a lasting error rejects a value. -/
theorem settle_of_counted {r : Attempt WriteError Work Unit} {s : Sample} {ds : DataSource}
    (counted : (settle s ds r).state.report.rejected ≠ r.state.report.rejected) :
    ∃ e, r.result = .error e ∧ e.errorClass = .lasting := by
  unfold settle at counted
  cases result : r.result with
  | ok _ =>
    rw [result] at counted
    exact absurd rfl counted
  | error e =>
    refine ⟨e, rfl, ?_⟩
    rw [result] at counted
    by_contra other
    dsimp only at counted
    rw [if_neg other] at counted
    exact counted rfl

theorem leaves_settle {told : List Command} {r : Attempt WriteError Work Unit} {e : WriteError}
    (result : r.result = .error e) (lasting : e.errorClass = .lasting) (grows : Grows capacity k w told r.state r.world)
    (memory : r.state.memory = k.memory.learn told)
    (report : r.state.report = { k.report with lines := k.report.lines + told.length }) (s : Sample) (ds : DataSource) :
    Leaves k w told (settle s ds r) := by
  obtain ⟨w', notes, rejected⟩ := settle_of_lasting result lasting s ds
  have described : r.state.writer.described = (k.memory.learn told).described := congrArg Memory.described memory
  have grown : Grows capacity k w told r.state w' := grows.note notes
  rw [rejected]
  refine ⟨rfl, ?_, grown.accepted, fun m => ?_⟩
  · simp only [Attempt.done, report]
  · show m ∈ r.state.writer.described ↔ _
    rw [described]
    exact Memory.mem_described_learn ..

theorem leaves_writeObservation (ready : k.writer.channel.Open capacity) {o : Observation} {s : Sample}
    {ds : DataSource} (counted : (settle s ds (k.writeObservation o w)).state.report.rejected ≠ k.report.rejected) :
    ∃ told, Leaves k w told (settle s ds (k.writeObservation o w)) ∧ (∀ e, o.derive = .error e → told = []) ∧
      ∀ all, o.derive = .ok all → Stuck capacity k all told := by
  unfold writeObservation at counted ⊢
  generalize o.derive = derived at counted ⊢
  cases derived with
  | error e =>
    exact ⟨[], leaves_settle (e := .series e) rfl rfl (.start ready w) rfl rfl s ds, fun _ _ => rfl, nofun⟩
  | ok all =>
    dsimp only at counted ⊢
    obtain ⟨told, rest, commands, grows, fits, memory, report, halts⟩ := tells_sendAll all ready w
    have same : (k.sendAll all w).state.report.rejected = k.report.rejected := by rw [report]
    rw [← same] at counted
    obtain ⟨e, result, lasting⟩ := settle_of_counted counted
    refine ⟨told, leaves_settle result lasting grows memory report s ds, nofun, fun _ derived => ?_⟩
    cases derived
    rw [result] at halts
    -- an error that may pass would have ended the sample, and not been counted
    cases halts with
    | refused _ unfit => exact ⟨_, _, commands, fits, unfit⟩
    | stopped passing => cases (WriteError.errorClass_of_passing passing).symm.trans lasting

/-- What is left of a value that is counted as rejected. -/
theorem leaves_writeValue (ready : k.writer.channel.Open capacity) (s : Sample) (entity : String) (index : Nat)
    (ds : DataSource) (counted : (k.writeValue s entity index ds w).state.report.rejected ≠ k.report.rejected) :
    let o := k.observe s entity index (ds.value.text (s.rate? index))
    ∃ told, Leaves k w told (k.writeValue s entity index ds w) ∧ (∀ e, o.derive = .error e → told = []) ∧
      ∀ all, o.derive = .ok all → Stuck capacity k all told := by
  unfold writeValue at counted ⊢
  dsimp only at counted ⊢
  split at counted
  · exact absurd rfl counted
  · rename_i number
    rw [if_neg number]
    rw [ChangeFilter.check_eq] at counted ⊢
    dsimp only at counted ⊢
    generalize (k.writer.filter.judge ⟨s.key, ds.value.text (s.rate? index), s.time⟩).2 = filter at counted ⊢
    generalize k.writer.filter.decision ⟨s.key, ds.value.text (s.rate? index), s.time⟩ = decision at counted ⊢
    cases decision with
    | suppress => exact absurd rfl counted
    | send =>
      let k' : Work := { k with writer := { k.writer with filter } }
      obtain ⟨told, leaves, underived, stuck⟩ := leaves_writeObservation (k := k') ready counted
      refine ⟨told, ⟨leaves.result, leaves.report, leaves.accepted, leaves.described⟩, underived, fun all derived => ?_⟩
      obtain ⟨c, rest, commands, fits, unfit⟩ := stuck all derived
      exact ⟨c, rest, (k.memory.tellAll_filter _ filter all).symm.trans commands, fits, unfit⟩

theorem writeValues_append (k : Work) (s : Sample) (entity : String) (index : Nat) (a b : List DataSource)
    (w : World) : k.writeValues s entity index (a ++ b) w =
      (k.writeValues s entity index a w).andThen fun _ k w => k.writeValues s entity (index + a.length) b w := by
  induction a generalizing k index w with
  | nil => rfl
  | cons ds a ih =>
    show ((k.writeValue s entity index ds w).andThen fun _ k w => k.writeValues s entity (index + 1) (a ++ b) w) =
      ((k.writeValue s entity index ds w).andThen fun _ k w => k.writeValues s entity (index + 1) a w).andThen _
    rw [Attempt.andThen_assoc]
    congr 1
    funext _ k w
    rw [ih, List.length_cons, Nat.add_assoc, Nat.add_comm 1]

end Work

/-! ### A value that is too long -/

namespace Cramped

open Writer

/-- A batch takes the line that defines the metric, but not the line of the value. -/
def settings : Settings := { node := { bufferSize := 118, flushInterval := 60000 } }

def sample : Sample where
  host := "node-0123456789.rack-0123456789.row-0123456789.hall-0123456789.site-0123456789.example"
  plugin := "p"
  typeName := "t"
  time := 7
  values := [⟨"value", .counter 5⟩]

def series : Series where
  entity := sample.host
  metric := "p.t.raw"
  value := "5"
  metricTags := [⟨"data_type", "counter"⟩, ⟨"data_source", "value"⟩, ⟨"type_instance", ""⟩, ⟨"type", "t"⟩,
    ⟨"plugin", "p"⟩]
  seriesTags := []
  time := 7

/-- No metric is described yet. -/
def start : Work := { writer := (course settings .ideal 0 0 (.name []) []).state }

def world : World :=
  (course settings .ideal 0 0 (.name []) []).world.atCall ⟨(), 2, 2, .name []⟩

/-- The definition and the value are handed over. -/
def sent : Attempt WriteError Work Unit :=
  ((start.send series.definition world).andThen fun _ k w => .done () (k.markDescribed series.metric) w).andThen
    fun _ k w => k.send series.command w

def rejected : Attempt WriteError Work Unit :=
  Work.settle sample ⟨"value", .counter 5⟩ (sent.andThen fun _ k w => .done () k w)

theorem writeValue_eq : start.writeValue sample sample.host 0 ⟨"value", .counter 5⟩ world = rejected := by
  have new : series.metric ∉ start.writer.described := Std.HashSet.not_mem_empty
  have sends : start.writeValue sample sample.host 0 ⟨"value", .counter 5⟩ world =
      Work.settle sample ⟨"value", .counter 5⟩ ((start.sendSeries series world).andThen fun _ k w => .done () k w) :=
    rfl
  rw [sends, Work.sendSeries_of_new rfl new]
  rfl

end Cramped

/-! ### Rejected values of a run -/

namespace Writer

/-- After any run, in the course of any sample: a value that is counted as rejected leaves the lines of its commands
before the first one that cannot be rendered or is as long as a batch, and the metrics defined by these.  It leaves
nothing if its series cannot be derived.  The sample goes on with the values after it. -/
theorem left_of_rejected (s : Settings) (network : Network) (now wall : Int) (machine : HostAnswer)
    (calls : List (Call Op)) (c : Call Unit) (smp : Sample) (entity : String) (before after : List DataSource)
    (ds : DataSource) :
    let x := (course s network now wall machine calls).state
    let w := (course s network now wall machine calls).world.atCall c
    let start : Work := { writer := x }
    let k := start.writeValues smp entity 0 before w
    let r := k.state.writeValue smp entity before.length ds k.world
    let o := k.state.observe smp entity before.length (ds.value.text (smp.rate? before.length))
    x.channel.closed = false → smp.values = before ++ ds :: after → k.result = .ok () →
      r.state.report.rejected ≠ k.state.report.rejected →
      start.writeSample smp entity w = r.state.writeValues smp entity (before.length + 1) after r.world ∧
      ∃ told, Work.Leaves k.state k.world told r ∧ (∀ e, o.derive = .error e → told = []) ∧
        ∀ all, o.derive = .ok all → Work.Stuck x.channel.batch.capacity k.state all told := by
  intro x w start k r o isOpen values result counted
  have audited : Audited (course s network now wall machine calls) := audited_course ..
  have ready : start.writer.channel.Open x.channel.batch.capacity := ⟨audited.sound, isOpen, rfl⟩
  have ready : k.state.writer.channel.Open x.channel.batch.capacity := by
    cases Work.fares_writeValues smp entity before 0 ready w with
    | done _ bears => exact bears.grows.ready
    | stopped e failed =>
      rw [result] at failed
      cases failed
  obtain ⟨told, leaves, rest⟩ := Work.leaves_writeValue ready smp entity before.length ds counted
  refine ⟨?_, told, leaves, rest⟩
  unfold Work.writeSample
  have isOpen : ¬start.writer.channel.closed = true := Bool.eq_false_iff.1 isOpen
  rw [if_neg isOpen, values, Work.writeValues_append, Attempt.andThen_of_ok result, Nat.zero_add]
  exact Attempt.andThen_of_ok leaves.result _

theorem left_of_rejected_busy :
    let settings : Settings := { node := { metricDefinitions := false, bufferSize := 45, flushInterval := 60000 } }
    let smp : Sample :=
      { host := "h", plugin := "cpu", typeName := "percent", typeInstance := "idle", time := 7
        values := [⟨"value", .counter 5⟩], rates := some [99.5] }
    let w := (course settings .ideal 0 0 (.name []) []).world.atCall ⟨(), 2, 2, .name []⟩
    let start : Work := { writer := (course settings .ideal 0 0 (.name []) []).state }
    let r := start.writeValue smp "h" 0 ⟨"value", .counter 5⟩ w
    r.state.report.rejected = 1 ∧ ∃ told, Work.Leaves start w told r ∧
      ∀ all, (start.observe smp "h" 0 ((Value.counter 5).text (smp.rate? 0))).derive = .ok all →
        Work.Stuck 45 start all told := by
  intro settings smp w start r
  have counted : r.state.report.rejected = 1 := by decide +kernel
  obtain ⟨-, told, leaves, -, stuck⟩ := left_of_rejected settings .ideal 0 0 (.name []) [] ⟨(), 2, 2, .name []⟩ smp
    "h" [] [] ⟨"value", .counter 5⟩ rfl rfl rfl (by decide +kernel)
  exact ⟨counted, told, leaves, stuck⟩

set_option maxRecDepth 4000 in
/-- The definition of the metric is accepted, and the metric is described, before the value turns out to be too long. -/
theorem left_of_rejected_cramped :
    let r := Cramped.start.writeValue Cramped.sample Cramped.sample.host 0 ⟨"value", .counter 5⟩ Cramped.world
    r.state.report = { lines := 1, rejected := 1 } ∧
      r.world.acceptedLines = ["metric m:\"p.t.raw\" t:\"data_type\"=\"counter\" t:\"data_source\"=\"value\" " ++
        "t:\"type_instance\"=\"\" t:\"type\"=\"t\" t:\"plugin\"=\"p\" \n"] ∧
      "p.t.raw" ∉ Cramped.start.writer.described ∧ "p.t.raw" ∈ r.state.writer.described := by
  intro r
  have eq : r = Cramped.rejected := Cramped.writeValue_eq
  have described : Cramped.rejected.state.writer.described =
    Cramped.start.writer.described.insert Cramped.series.metric := rfl
  rw [eq]
  refine ⟨by decide +kernel, by decide +kernel, Std.HashSet.not_mem_empty, ?_⟩
  rw [described]
  exact Std.HashSet.mem_insert_self

end Writer

end MetricFeed
