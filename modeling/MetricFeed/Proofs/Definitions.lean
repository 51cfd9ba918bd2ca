import MetricFeed.Proofs.Journal
import MetricFeed.Proofs.Setbacks
import Mathlib.Data.List.Pairwise

/-!
# Definitions on the link

A writer defines a metric once, and does not ask what became of the block that holds the definition.  So a value that
goes out stands behind the definition of its metric, in the same block or in an earlier one.  If the write of that block
failed, the definition is lost for good: no block that is delivered holds it (`Writer.defined_before_value`).
-/

namespace MetricFeed

/-- The metrics that are defined in a block. -/
def definedIn (block : String) : List String :=
  ((Command.readAll? block).getD []).filterMap Command.defined?

/-! ### The commands of blocks -/

/-- The blocks, each with what became of it, are read as these parts of the commands. -/
def ReadAs (handed : List (String × WriteOutcome)) (parts : List (List Command × WriteOutcome)) : Prop :=
  (handed.map fun b => (Command.readAll? b.1, b.2)) = parts.map fun p => (some p.1, p.2)

/-- Where the lines of commands fall into groups, so do the commands, and the text of a group is read as its part. -/
theorem readAs_of_map {commands : List Command} {groups : List (List String × WriteOutcome)} {last : List String}
    (h : commands.map Command.line = (groups.flatMap Prod.fst ++ last).map Except.ok)
    (plain : ∀ c ∈ commands, c.Plain) :
    ∃ parts rest, commands = parts.flatMap Prod.fst ++ rest ∧
      ReadAs (groups.map fun g => (String.join g.1, g.2)) parts := by
  induction groups generalizing commands with
  | nil => exact ⟨[], commands, rfl, rfl⟩
  | cons g groups ih =>
    rw [List.flatMap_cons, List.append_assoc, List.map_append] at h
    obtain ⟨part, others, rfl, lines, h⟩ := List.map_eq_append_iff.1 h
    have read := Command.readAll?_of_map lines fun c hc => plain c (List.mem_append_left _ hc)
    obtain ⟨parts, rest, rfl, reads⟩ := ih h fun c hc => plain c (List.mem_append_right _ hc)
    refine ⟨(part, g.2) :: parts, rest, ?_, ?_⟩
    · rw [List.flatMap_cons, List.append_assoc]
    · rw [ReadAs, List.map_cons, List.map_cons, List.map_cons, read, reads]

namespace ReadAs

variable {handed : List (String × WriteOutcome)} {parts : List (List Command × WriteOutcome)}

theorem part (h : ReadAs handed parts) {b : String × WriteOutcome} (hb : b ∈ handed) :
    ∃ p ∈ parts, p.2 = b.2 ∧ p.1.filterMap Command.defined? = definedIn b.1 := by
  have mem : (Command.readAll? b.1, b.2) ∈ parts.map fun p => (some p.1, p.2) := by
    rw [← h]
    exact List.mem_map_of_mem hb
  obtain ⟨p, hp, eq⟩ := List.mem_map.1 mem
  obtain ⟨read, outcome⟩ := Prod.mk.inj eq
  refine ⟨p, hp, outcome, ?_⟩
  rw [definedIn, ← read]
  rfl

theorem block (h : ReadAs handed parts) {p : List Command × WriteOutcome} (hp : p ∈ parts) :
    ∃ b ∈ handed, b.2 = p.2 ∧ definedIn b.1 = p.1.filterMap Command.defined? := by
  have mem : (some p.1, p.2) ∈ handed.map fun b => (Command.readAll? b.1, b.2) := by
    rw [h]
    exact List.mem_map_of_mem hp
  obtain ⟨b, hb, eq⟩ := List.mem_map.1 mem
  obtain ⟨read, outcome⟩ := Prod.mk.inj eq
  refine ⟨b, hb, outcome, ?_⟩
  rw [definedIn, read]
  rfl

/-- The part of one block, and the parts of the blocks before it. -/
theorem split {before after : List (String × WriteOutcome)} {block : String} {outcome : WriteOutcome}
    (h : ReadAs (before ++ (block, outcome) :: after) parts) :
    ∃ earlier commands later, parts = earlier ++ (commands, outcome) :: later ∧
      Command.readAll? block = some commands ∧ ReadAs before earlier := by
  rw [ReadAs, List.map_append, List.map_cons] at h
  obtain ⟨earlier, others, rfl, reads, h⟩ := List.map_eq_append_iff.1 h.symm
  obtain ⟨⟨commands, outcome'⟩, later, rfl, eq, -⟩ := List.map_eq_cons_iff.1 h
  obtain ⟨read, same⟩ := Prod.mk.inj eq
  cases same
  exact ⟨earlier, commands, later, rfl, read.symm, reads.symm⟩

end ReadAs

namespace Journal

variable {described : Std.HashSet String} {parts : List (List Command × WriteOutcome)} {rest : List Command}

/-- The definition of a metric comes before a value of it in the same part, or in an earlier part. -/
theorem defined_before (h : Journal true described (parts.flatMap Prod.fst ++ rest))
    {earlier later : List (List Command × WriteOutcome)} {first after : List Command} {c : Command}
    {outcome : WriteOutcome} {m : String} (eq : parts = earlier ++ (first ++ c :: after, outcome) :: later)
    (measured : c.measured? = some m) :
    m ∈ first.filterMap Command.defined? ∨ ∃ p ∈ earlier, m ∈ p.1.filterMap Command.defined? := by
  have place : parts.flatMap Prod.fst ++ rest =
      (earlier.flatMap Prod.fst ++ first) ++ c :: (after ++ (later.flatMap Prod.fst ++ rest)) := by
    rw [eq, List.flatMap_append, List.flatMap_cons]
    simp only [List.append_assoc, List.cons_append]
  have mem := h.first rfl _ c _ m place measured
  rw [List.filterMap_append, List.mem_append, List.filterMap_flatMap, List.mem_flatMap] at mem
  exact mem.symm

/-- No metric is defined in two parts. -/
theorem defined_apart {on : Bool} (h : Journal on described (parts.flatMap Prod.fst ++ rest))
    {p p' : List Command × WriteOutcome} (hp : p ∈ parts) (hp' : p' ∈ parts) (ne : p ≠ p') {m : String}
    (mem : m ∈ p.1.filterMap Command.defined?) : m ∉ p'.1.filterMap Command.defined? := by
  have once := h.once
  rw [List.filterMap_append, List.filterMap_flatMap] at once
  have apart := (List.nodup_flatMap.1 (List.nodup_append.1 once).1).2
  have : Std.Symm (Function.onFun List.Disjoint
      fun p : List Command × WriteOutcome => p.1.filterMap Command.defined?) :=
    ⟨fun _ _ disjoint _ h h' => disjoint h' h⟩
  exact apart.forall hp hp' ne mem

end Journal

namespace Writer

/-- The blocks of a run are read as its commands, part by part. -/
theorem readAs_course (s : Settings) (network : Network) (now wall : Int) (machine : HostAnswer)
    (calls : List (Call Op)) :
    let k := course s network now wall machine calls
    ∃ parts rest, Journal s.node.metricDefinitions k.state.described (parts.flatMap Prod.fst ++ rest) ∧
      ReadAs k.world.handed parts := by
  intro k
  obtain ⟨-, -, commands, journal, lines⟩ := keeps_course s network now wall machine calls
  obtain ⟨groups, last, accepted, handed, -⟩ := grouped_course s network now wall machine calls
  rw [accepted] at lines
  obtain ⟨parts, rest, rfl, reads⟩ := readAs_of_map lines fun c hc => (journal.drafted c hc).legible.plain
  refine ⟨parts, rest, journal, ?_⟩
  rw [handed]
  exact reads

/-- What becomes of the work on a sample. -/
def concluded (s : Sample) (r : Attempt WriteError Work Unit) : Attempt WriteError Writer Report :=
  let report := r.state.report
  let x := r.state.writer.addReport report
  match r.result with
  | .ok () =>
    .done report { x with counts := { x.counts with samplesWritten := x.counts.samplesWritten + 1 } } r.world
  | .error e => .fail e (x.countError e) (x.logFailure s e r.world)

/-- A sample is turned down before any of its values is written. -/
def turnedDown (x : Writer) (s : Sample) (e : WriteError) (w : World) : Attempt WriteError Writer Report :=
  .fail e { x with counts := { x.counts with samplesRejected := x.counts.samplesRejected + 1 } }
    (x.log w .warn "sample rejected" [("plugin", s.plugin), ("type_name", s.typeName), ("error", e.message)])

theorem write_of_unprepared {x : Writer} {s : Sample} {e : WriteError} {w : World} (h : x.prepare s w = .error e) :
    x.write s w = x.turnedDown s e w := by
  unfold Writer.write turnedDown
  generalize x.prepare s w = prepared at h
  subst h
  rfl

theorem write_of_prepared {x : Writer} {s : Sample} {entity : String} {w : World} (h : x.prepare s w = .ok entity) :
    x.write s w = concluded s (({ writer := x } : Work).writeSample s entity w) := by
  unfold Writer.write concluded
  generalize x.prepare s w = prepared at h
  subst h
  rfl

end Writer

/-! ### A run that loses a definition -/

namespace Lossy

open Writer

def settings : Settings := { node := { minReconnectInterval := 0 } }

/-- The first write fails. -/
def network : Network where
  dial _ _ := .linked
  write n := if n = 0 then .failed "reset" else .delivered

/-- A counter that has no rate yet. -/
def sample : Sample where
  host := "h"
  plugin := "p"
  typeName := "t"
  time := 7
  values := [⟨"value", .counter 5⟩]

def series : Series where
  entity := "h"
  metric := "p.t.raw"
  value := "5"
  metricTags := [⟨"data_type", "counter"⟩, ⟨"data_source", "value"⟩, ⟨"type_instance", ""⟩, ⟨"type", "t"⟩,
    ⟨"plugin", "p"⟩]
  seriesTags := []
  time := 7

/-- What the writer makes of the attempt to send that series. -/
def written (r : Attempt WriteError Work Unit) : Attempt WriteError Writer Answer :=
  let r := (Work.settle sample ⟨"value", .counter 5⟩ (r.andThen fun _ k w => .done () k w)).andThen
    fun _ k w => .done () k w
  (concluded sample r).andThen fun report x w => .done (.report report) x w

theorem act_write (x : Writer) (w : World) (node : x.node = settings.node) (filter : x.filter = settings.filter)
    (isOpen : x.channel.closed = false) :
    act (.write sample) x w = written (({ writer := x } : Work).sendSeries series w) := by
  obtain ⟨node', channel, filter', described, last, counts⟩ := x
  obtain rfl : node' = settings.node := node
  obtain rfl : filter' = settings.filter := filter
  have isOpen : channel.closed = false := isOpen
  have derived (k : Work) : k.writeObservation ⟨sample, 0, "h", "", 768, "5"⟩ w =
      (k.sendSeries series w).andThen fun _ k w => .done () k w := rfl
  unfold act
  dsimp only
  rw [write_of_prepared (show _ = Except.ok "h" from rfl)]
  unfold written Work.writeSample
  rw [if_neg (by rw [isOpen]; decide), ← derived]
  rfl

def call (op : Op) : Call Op := ⟨op, 0, 0, .name []⟩

/-- The sample is written twice, and a flush delivers what waits then. -/
def run : Course WriteError Writer Op Answer :=
  course settings network 0 0 (.name []) [call (.write sample), call (.write sample), call (.flush 0)]

def start : Writer × World := ofSettings settings (.fresh network 0 0 (.name []))

/-- The definition is accepted, and lost when the value comes, which is not accepted. -/
def first : Attempt WriteError Writer Answer :=
  let k : Work := { writer := start.1 }
  let w := start.2.atCall (call (.write sample))
  written (((k.send series.definition w).andThen fun _ k w => .done () (k.markDescribed series.metric) w).andThen
    fun _ k w => k.send series.command w)

/-- The metric counts as described, so the value is accepted without a definition. -/
def second : Attempt WriteError Writer Answer :=
  let k : Work := { writer := first.state }
  written (k.send series.command (first.world.atCall (call (.write sample))))

theorem first_eq : act (.write sample) start.1 (start.2.atCall (call (.write sample))) = first := by
  have new : series.metric ∉ start.1.described := Std.HashSet.not_mem_empty
  rw [act_write _ _ rfl rfl rfl, Work.sendSeries_of_new rfl new]
  rfl

set_option maxRecDepth 4000 in
theorem second_eq : act (.write sample) first.state (first.world.atCall (call (.write sample))) = second := by
  have node : first.state.node = settings.node := rfl
  have filter : first.state.filter = settings.filter := rfl
  have isOpen : first.state.channel.closed = false := rfl
  have known : series.metric ∈ first.state.described := by
    have described : first.state.described = start.1.described.insert series.metric := rfl
    rw [described]
    exact Std.HashSet.mem_insert_self
  rw [act_write _ _ node filter isOpen, Work.sendSeries_of_known (k := { writer := first.state }) fun _ => known]
  rfl

/-- The block of the definition. -/
def lost : String :=
  "metric m:\"p.t.raw\" t:\"data_type\"=\"counter\" t:\"data_source\"=\"value\" t:\"type_instance\"=\"\" " ++
    "t:\"type\"=\"t\" t:\"plugin\"=\"p\" \n"

/-- The block of the value. -/
def kept : String := "series e:\"h\" m:\"p.t.raw\"=5 ms:7 \n"

set_option maxRecDepth 4000 in
theorem handed_run : run.world.handed = [(lost, .failed "reset"), (kept, .delivered)] := by
  have world : run.world = (act (.flush 0) second.state (second.world.atCall (call (.flush 0)))).world := by
    rw [← second_eq, ← first_eq]
    rfl
  rw [world]
  rfl

end Lossy

/-! ### Definitions come before values -/

namespace Writer

/-- With metric definitions on, a value that was handed to a link stands behind the definition of its metric, in its
block or in an earlier one.  The block of the definition was delivered, or no delivered block defines the metric. -/
theorem defined_before_value (s : Settings) (network : Network) (now wall : Int) (machine : HostAnswer)
    (calls : List (Call Op)) (on : s.node.metricDefinitions = true) :
    let k := course s network now wall machine calls
    ∀ before block outcome after, k.world.handed = before ++ (block, outcome) :: after →
      ∃ commands, Command.readAll? block = some commands ∧
        ∀ first c rest m, commands = first ++ c :: rest → c.measured? = some m →
          m ∈ first.filterMap Command.defined? ∨
            ∃ b ∈ before, m ∈ definedIn b.1 ∧
              (b.2 = .delivered ∨ ∀ b' ∈ k.world.handed, b'.2 = .delivered → m ∉ definedIn b'.1) := by
  intro k before block outcome after handed
  obtain ⟨parts, rest, journal, reads⟩ := readAs_course s network now wall machine calls
  have reads : ReadAs k.world.handed parts := reads
  rw [on] at journal
  obtain ⟨earlier, commands, later, eq, read, earlierReads⟩ := ReadAs.split (handed ▸ reads)
  refine ⟨commands, read, ?_⟩
  rintro first c rest m rfl measured
  rcases journal.defined_before eq measured with mem | ⟨p, hp, mem⟩
  · exact .inl mem
  · obtain ⟨b, hb, outcome, defined⟩ := earlierReads.block hp
    refine .inr ⟨b, hb, defined ▸ mem, ?_⟩
    by_cases delivered : b.2 = .delivered
    · exact .inl delivered
    · -- a delivered block is another one, and no metric is defined in two blocks
      refine .inr fun b' hb' delivered' => ?_
      obtain ⟨p', hp', outcome', defined'⟩ := reads.part hb'
      have ne : p ≠ p' := by
        rintro rfl
        exact delivered (outcome.trans (outcome'.trans delivered'))
      have hp : p ∈ parts := by
        rw [eq]
        exact List.mem_append_left _ hp
      rw [← defined']
      exact journal.defined_apart hp hp' ne mem

/-- The value is delivered, and the block of its definition was lost before. -/
theorem defined_before_value_lossy :
    Lossy.settings.node.metricDefinitions = true ∧
      Lossy.run.world.handed = [(Lossy.lost, .failed "reset")] ++ (Lossy.kept, .delivered) :: [] ∧
      ∃ commands, Command.readAll? Lossy.kept = some commands ∧
        ∀ first c rest m, commands = first ++ c :: rest → c.measured? = some m →
          m ∈ first.filterMap Command.defined? ∨
            ∃ b ∈ [(Lossy.lost, WriteOutcome.failed "reset")], m ∈ definedIn b.1 ∧
              (b.2 = .delivered ∨ ∀ b' ∈ Lossy.run.world.handed, b'.2 = .delivered → m ∉ definedIn b'.1) :=
  ⟨rfl, Lossy.handed_run, defined_before_value Lossy.settings Lossy.network 0 0 (.name [])
    [Lossy.call (.write Lossy.sample), Lossy.call (.write Lossy.sample), Lossy.call (.flush 0)] rfl
    [(Lossy.lost, .failed "reset")] Lossy.kept .delivered [] Lossy.handed_run⟩

/-- A delivered value need not come after a definition that was delivered too. -/
theorem undelivered_before_value_lossy :
    Lossy.settings.node.metricDefinitions = true ∧
      ¬∀ before block after, Lossy.run.world.handed = before ++ (block, .delivered) :: after →
        ∀ commands, Command.readAll? block = some commands →
          ∀ first c rest m, commands = first ++ c :: rest → c.measured? = some m →
            m ∈ first.filterMap Command.defined? ∨ ∃ b ∈ before, b.2 = .delivered ∧ m ∈ definedIn b.1 := by
  refine ⟨rfl, fun precedes => ?_⟩
  have read : Command.readAll? Lossy.kept = some [Lossy.series.command] := by decide
  rcases precedes [(Lossy.lost, .failed "reset")] Lossy.kept [] Lossy.handed_run _ read [] _ [] "p.t.raw" rfl rfl with
    mem | ⟨b, hb, delivered, -⟩
  · cases mem
  · rw [List.mem_singleton.1 hb] at delivered
    cases delivered

end Writer

end MetricFeed
