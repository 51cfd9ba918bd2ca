import MetricFeed.Proofs.Fates
import MetricFeed.Proofs.Rows
import MetricFeed.Proofs.Unread
import MetricFeed.Proofs.Upkeep

/-!
# What a run makes of its input

A run does to the network what a writer does that is called for the samples of the rows of the input, then for the
ticks, and then shut down: the run only adds log entries to what this writer does (`Run.Tracks`).  So blank lines and
lines that hold no sample have no part in what is delivered, nor in the exit code (`run_eq_byCalls`).
-/

namespace MetricFeed

/-! ### Calls of a run -/

/-- An operation called for at that moment. -/
def Call.to {ο : Type} (c : Call Unit) (op : ο) : Call ο :=
  ⟨op, c.now, c.wall, c.machine⟩

namespace Run

/-- The calls that write samples, all at one moment. -/
def writeCalls (c : Call Unit) (all : List Sample) : List (Call Writer.Op) :=
  all.map fun s => c.to (.write s)

/-- The calls of a tick. -/
def tickCalls (n : NodeSettings) (p : Property) (c : Call Unit) : List (Call Writer.Op) :=
  [c.to (.flush (Micros.ofMillis n.flushInterval)), c.to (.propertyIfDue p)]

/-- The writer of the run is the one that the calls leave, and the world differs from theirs in its log entries at
most. -/
structure Tracks (n : NodeSettings) (k : Course WriteError Writer Writer.Op Writer.Answer) (x : Writer) (w : World) :
    Prop where
  state : k.state = x
  world : w.Akin k.world
  sound : x.channel.Sound
  node : x.node = n

/-- The clocks and the machine are as the call finds them. -/
structure Shows (w : World) (c : Call Unit) : Prop where
  now : w.now = c.now
  wall : w.wall = c.wall
  machine : w.machine = c.machine

variable {n : NodeSettings} {k : Course WriteError Writer Writer.Op Writer.Answer} {x : Writer} {w : World}
  {c : Call Unit}

theorem Shows.atCall_eq (shows : Shows w c) : w.atCall c = w := by
  unfold World.atCall
  rw [← shows.now, ← shows.wall, ← shows.machine]

theorem Shows.log (shows : Shows w c) (level : Level) (message : String) (fields : List (String × String)) :
    Shows (w.log level message fields) c :=
  ⟨shows.now, shows.wall, shows.machine⟩

theorem Tracks.log (h : Tracks n k x w) (level : Level) (message : String) (fields : List (String × String)) :
    Tracks n k x (w.log level message fields) :=
  ⟨h.state, h.world.log level message fields, h.sound, h.node⟩

/-- One more operation, in which no time passes. -/
theorem Tracks.act (h : Tracks n k x w) (c : Call Unit) (op : Writer.Op) :
    let r := Writer.act op x (w.atCall c)
    Tracks n (k.next Writer.act (c.to op)) r.state r.world ∧ Shows r.world c := by
  intro r
  obtain ⟨rfl, world, sound, node⟩ := h
  obtain ⟨-, state, akin⟩ := (world.atCall c).act op k.state
  obtain ⟨news, leads, -⟩ := Writer.meets_act sound op (w.atCall c)
  refine ⟨⟨state.symm, akin, ?_, (Writer.node_act sound op _).trans node⟩, leads.now, leads.wall, leads.machine⟩
  exact Channel.upheld_sound.writer_act (w := w.atCall c) sound sound op

/-! ### Reading -/

/-- A line, read while the clocks stand still. -/
theorem Tracks.takeLine (h : Tracks n k x w) (shows : Shows w c) (number : Nat) (line : String) :
    let r := takeLine x number line w
    Tracks n ((writeCalls c (samplesOf [line])).foldl (Course.next Writer.act) k) r.1 r.2 ∧ Shows r.2 c := by
  unfold Run.takeLine
  split
  · rename_i blank
    rw [samplesOf_idle (.inl blank)]
    exact ⟨h, shows⟩
  · split
    · rename_i s accepted
      have one : samplesOf [line] = [s] := by
        unfold samplesOf
        rw [List.filterMap_cons_some (b := s) (by rw [accepted]; rfl), List.filterMap_nil]
      have tracks := h.act c (.write s)
      rw [shows.atCall_eq, Writer.act_write_eq] at tracks
      rw [one]
      exact tracks
    · rename_i e rejected
      rw [samplesOf_idle (.inr ⟨e, rejected⟩)]
      exact ⟨h.log _ _ _, shows.log _ _ _⟩

theorem Tracks.takeLines (h : Tracks n k x w) (shows : Shows w c) (number : Nat) (lines : List String) :
    ∃ x' w', takeLines x number w (lines.map some) = .done () x' w' ∧
      Tracks n ((writeCalls c (samplesOf lines)).foldl (Course.next Writer.act) k) x' w' := by
  induction lines generalizing k x w number with
  | nil => exact ⟨x, w, rfl, h⟩
  | cons line rest ih =>
    obtain ⟨tracks, shows⟩ := h.takeLine shows number line
    obtain ⟨x', w', taken, tracks⟩ := ih tracks shows (number + 1)
    refine ⟨x', w', taken, ?_⟩
    rw [← List.foldl_append] at tracks
    rw [← List.singleton_append, samplesOf_append]
    unfold writeCalls at tracks ⊢
    rw [List.map_append]
    exact tracks

/-! ### Ticks and the end -/

theorem Tracks.tick (h : Tracks n k x w) (c : Call Unit) (p : Property) :
    let r := tick x p (w.atCall c)
    Tracks n ((tickCalls n p c).foldl (Course.next Writer.act) k) r.1 r.2 := by
  unfold Run.tick
  rw [h.node]
  obtain ⟨flushed, shows⟩ := h.act c (.flush (Micros.ofMillis n.flushInterval))
  obtain ⟨sent, -⟩ := flushed.act c (.propertyIfDue p)
  rw [shows.atCall_eq, Writer.act_propertyIfDue_eq, Writer.act_flush_eq] at sent
  dsimp only
  split
  · exact sent
  · exact sent.log _ _ _

theorem Tracks.runTicks (h : Tracks n k x w) (p : Property) (ticks : List (Call Unit)) :
    let r := runTicks x p w (ticks.map fun c w => w.atCall c)
    Tracks n ((ticks.flatMap (tickCalls n p)).foldl (Course.next Writer.act) k) r.1 r.2 := by
  induction ticks generalizing k x w with
  | nil => exact h
  | cons c ticks ih =>
    rw [List.flatMap_cons, List.foldl_append]
    exact ih (h.tick c p)

theorem Tracks.finish (h : Tracks n k x w) :
    let r := Ending.ofAttempt (finish x w)
    let last := Writer.act .shutdown k.state k.world
    r.world.Akin last.world ∧ r.exitCode = if last.result.isOk then 0 else 1 := by
  intro r last
  obtain ⟨rfl, world, -, -⟩ := h
  obtain ⟨result, -, akin⟩ := world.act .shutdown k.state
  rw [Writer.act_shutdown_eq] at result akin
  have ending : r = Ending.ofAttempt (Run.finish k.state w) := rfl
  unfold Run.finish at ending
  dsimp only at ending result akin
  cases ended : (k.state.shutdown w).result with
  | ok a =>
    rw [ended] at ending result
    rw [ending, ← result]
    exact ⟨akin.log _ _ _, rfl⟩
  | error e =>
    rw [ended] at ending result
    rw [ending, ← result]
    exact ⟨akin, rfl⟩

/-! ### The whole run -/

/-- What becomes of a writer that is called for the samples while the clocks stand still, then for the ticks, and then
shut down. -/
def byCalls (s : Settings) (network : Network) (c : Call Unit) (all : List Sample) (ticks : List (Call Unit)) :
    Attempt WriteError Writer Writer.Answer :=
  let calls := writeCalls c all ++ ticks.flatMap (tickCalls s.node (agentProperty c.machine))
  let k := Writer.course s network c.now c.wall c.machine calls
  Writer.act .shutdown k.state k.world

end Run

namespace Options

/-- The input that is read, if it can be opened. -/
def input? (o : Options) (env : Environment) : Option Input :=
  match o.input with
  | none => some env.stdin
  | some path => match env.file path with
    | .opened input => some input
    | .missing => none

/-- The program accepts the settings, reads the text to its end, and its ticks come at these moments. -/
structure Runs (o : Options) (env : Environment) (s : Settings) (t : String) (ticks : List (Call Unit)) : Prop where
  accepted : env.settings o.config = .ok s
  reads : o.input? env = some (.ofText t)
  paused : env.pauses = ticks.map fun c w => w.atCall c

variable {o : Options} {env : Environment} {s : Settings} {t : String} {ticks : List (Call Unit)}

/-- The writer that a run starts with, and the world after its first log entries. -/
def begun (s : Settings) (w : World) : Writer × World :=
  Writer.ofSettings s (w.log .info "Starting ATSD writer"
    [("destination", s.node.destination), ("cache_policies", toString s.policies.length)])

theorem run_of_input (accepted : env.settings o.config = .ok s) {input : Input} (reads : o.input? env = some input)
    (w : World) : o.run env w = .ofAttempt (Run.deliver (begun s w).1 input env.pauses (begun s w).2) := by
  unfold input? at reads
  unfold Options.run
  rw [accepted]
  cases source : o.input with
  | none =>
    rw [source] at reads
    rw [← Option.some.inj reads]
    rfl
  | some path =>
    rw [source] at reads
    dsimp only at reads ⊢
    cases file : env.file path with
    | missing =>
      rw [file] at reads
      cases reads
    | opened input =>
      rw [file] at reads
      rw [← Option.some.inj reads]
      rfl

theorem Runs.akin_byCalls (runs : o.Runs env s t ticks) (network : Network) (c : Call Unit) :
    let ending := o.run env (.fresh network c.now c.wall c.machine)
    let last := Run.byCalls s network c (samplesOf (rows t)) ticks
    ending.world.Akin last.world ∧ ending.exitCode = if last.result.isOk then 0 else 1 := by
  intro ending last
  let w := World.fresh network c.now c.wall c.machine
  let start := Writer.ofSettings s w
  have delivered : ending = .ofAttempt (Run.deliver start.1 (.ofText t) env.pauses (begun s w).2) :=
    run_of_input runs.accepted runs.reads w
  have tracks : Run.Tracks s.node ⟨[], start.1, start.2⟩ start.1 (begun s w).2 :=
    ⟨rfl, ⟨rfl, rfl⟩, Channel.sound_new _ _ _ _ _, rfl⟩
  obtain ⟨x, w₁, taken, tracks⟩ := tracks.takeLines (c := c) ⟨rfl, rfl, rfl⟩ 1 (rows t)
  replace tracks := (tracks.runTicks (Run.agentProperty c.machine) ticks).finish
  rw [delivered]
  unfold Run.deliver
  rw [lines_of_text, taken, runs.paused]
  rw [← List.foldl_append] at tracks
  exact tracks

/-- Let the clocks stand still while the input is read.  Whatever becomes of dials and writes, the blocks delivered and
the exit code are those of a writer that is called for exactly the samples of the rows that hold one, in order, then
for the ticks, and then shut down; the code is 0 exactly if this shutdown succeeds.  So lines that are blank or hold no
sample, put in or taken out anywhere, change neither. -/
theorem run_eq_byCalls (runs : o.Runs env s t ticks) (network : Network) (now wall : Int) (machine : HostAnswer) :
    let w := World.fresh network now wall machine
    let last := Run.byCalls s network ⟨(), now, wall, machine⟩ (samplesOf (rows t)) ticks
    (o.run env w).world.deliveredBlocks = last.world.deliveredBlocks ∧
    (o.run env w).exitCode = (if last.result.isOk then 0 else 1) ∧
    ∀ (o' : Options) (env' : Environment) (t' : String), o'.Runs env' s t' ticks → Relation.EqvGen Inserts t t' →
      (o'.run env' w).world.deliveredBlocks = (o.run env w).world.deliveredBlocks ∧
      (o'.run env' w).exitCode = (o.run env w).exitCode := by
  intro w last
  obtain ⟨akin, code⟩ := runs.akin_byCalls network ⟨(), now, wall, machine⟩
  refine ⟨akin.deliveredBlocks, code, ?_⟩
  intro o' env' t' runs' alters
  obtain ⟨akin', code'⟩ := runs'.akin_byCalls network ⟨(), now, wall, machine⟩
  rw [samples_eq_of_alters alters] at akin' code'
  exact ⟨akin'.deliveredBlocks.trans akin.deliveredBlocks.symm, code'.trans code.symm⟩

/-- Without the last line, which holds no sample, a file comes to the same as the text at the standard input. -/
theorem run_eq_byCalls_junk :
    let text := "\x7b\"host\":\"h\",\"plugin\":\"p\",\"type\":\"t\",\"time\":1,\"values\":[]\x7d"
    let ticks : List (Call Unit) := [⟨(), 7, 7, .name []⟩]
    let env : Environment := {
      services := []
      file path := .opened (if path = "samples" then .ofText text else ⟨[], false⟩)
      stdin := .ofText (text ++ "\n" ++ "junk")
      pauses := ticks.map fun c w => w.atCall c }
    let w := World.fresh .ideal 0 0 (.name [])
    Runs { config := "feed.yaml" } env {} (text ++ "\n" ++ "junk") ticks ∧
    Runs { config := "feed.yaml", input := some "samples" } env {} text ticks ∧
    Inserts text (text ++ "\n" ++ "junk") ∧
    (run { config := "feed.yaml", input := some "samples" } env w).world.deliveredBlocks =
      (run { config := "feed.yaml" } env w).world.deliveredBlocks ∧
    (run { config := "feed.yaml", input := some "samples" } env w).exitCode =
      (run { config := "feed.yaml" } env w).exitCode := by
  intro text ticks env w
  have first : Runs { config := "feed.yaml" } env {} (text ++ "\n" ++ "junk") ticks := ⟨rfl, rfl, rfl⟩
  have second : Runs { config := "feed.yaml", input := some "samples" } env {} text ticks := ⟨rfl, rfl, rfl⟩
  have inserts : Inserts text (text ++ "\n" ++ "junk") := .last (by decide) (.inr ⟨.malformed, rfl⟩)
  have both := run_eq_byCalls first .ideal 0 0 (.name [])
  exact ⟨first, second, inserts, both.2.2 _ env text second (.symm _ _ (.rel _ _ inserts))⟩

end Options

end MetricFeed
