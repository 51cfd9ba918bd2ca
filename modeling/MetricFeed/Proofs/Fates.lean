import MetricFeed.Proofs.Definitions
import MetricFeed.Proofs.FilterHistory
import Mathlib.Data.List.TakeWhile

/-!
# The fate of a value

Each value of a sample is skipped, suppressed, rejected or accepted.  Which it is, and which commands are told of it,
can be said without a channel: it depends on the settings, on the capacity of a batch and on what the writer has learnt
so far (`Memory.fates`).  Unless an error that may pass ends the sample, its values meet these fates, the lines accepted
are those of the commands told, and the report has counted both (`Writer.write_cases`).
-/

namespace MetricFeed

/-! ### What becomes of values -/

namespace Command

/-- A batch of this capacity takes the line of the command. -/
def fits (capacity : Nat) (c : Command) : Bool :=
  match c.line with
  | .ok line => line.utf8ByteSize < capacity
  | .error _ => false

def isProperty : Command → Bool
  | property _ _ _ _ => true
  | _ => false

end Command

inductive Fate where
  | skipped
  | suppressed
  /-- These commands were accepted, but the next one could not be. -/
  | rejected (told : List Command)
  /-- These commands were accepted, and there are no others. -/
  | accepted (told : List Command)
  deriving DecidableEq

namespace Fate

/-- The commands that were accepted. -/
def told : Fate → List Command
  | skipped => []
  | suppressed => []
  | rejected told => told
  | accepted told => told

def isRejected : Fate → Bool
  | rejected _ => true
  | _ => false

end Fate

/-- A report that has counted these fates too. -/
def Report.after (r : Report) (fates : List Fate) : Report where
  lines := r.lines + (fates.flatMap Fate.told).length
  suppressed := r.suppressed + fates.count .suppressed
  skipped := r.skipped + fates.count .skipped
  rejected := r.rejected + fates.countP Fate.isRejected

/-- What a writer has learnt: the values it has sent and the metrics it takes for described. -/
structure Memory where
  filter : ChangeFilter
  described : Std.HashSet String

namespace Memory

/-- The memory after these commands were accepted. -/
def learn (m : Memory) (told : List Command) : Memory :=
  { m with
    described := (told.filterMap Command.defined?).foldl (fun described metric => described.insert metric) m.described }

/-- The commands of a series: its value comes after the definition of its metric, if definitions are on and the metric
is not described yet. -/
def tell (on : Bool) (m : Memory) (s : Series) : List Command :=
  (if on && !m.described.contains s.metric then [s.definition] else []) ++ [s.command]

def tellAll (on : Bool) (m : Memory) : List Series → List Command
  | [] => []
  | s :: rest => m.tell on s ++ (m.learn (m.tell on s)).tellAll on rest

/-- What becomes of a value with these commands. -/
def settle (capacity : Nat) (m : Memory) (commands : List Command) : Fate × Memory :=
  let told := commands.takeWhile (Command.fits capacity)
  (if told.length = commands.length then .accepted told else .rejected told, m.learn told)

section

variable (n : NodeSettings) (capacity : Nat) (s : Sample) (entity : String)

/-- The fate of the value at `index`, and the memory afterwards. -/
def fate (m : Memory) (index : Nat) (ds : DataSource) : Fate × Memory :=
  let rate := s.rate? index
  if rate.any Float.isNaN then (.skipped, m)
  else
    let text := ds.value.text rate
    let reading : Reading := ⟨s.key, text, s.time⟩
    let decision := m.filter.decision reading
    let m := { m with filter := (m.filter.judge reading).2 }
    match decision with
    | .suppress => (.suppressed, m)
    | .send => match Observation.derive ⟨s, index, entity, n.namePrefix, n.maxNameLength, text⟩ with
      | .ok all => m.settle capacity (m.tellAll n.metricDefinitions all)
      | .error _ => (.rejected [], m)

/-- The fates of the values that stand from `index` on. -/
def fates (m : Memory) (index : Nat) : List DataSource → List Fate × Memory
  | [] => ([], m)
  | ds :: rest =>
    let first := m.fate n capacity s entity index ds
    let others := first.2.fates (index + 1) rest
    (first.1 :: others.1, others.2)

variable (m : Memory)

theorem length_fates (index : Nat) (values : List DataSource) :
    (m.fates n capacity s entity index values).1.length = values.length := by
  induction values generalizing m index with
  | nil => rfl
  | cons ds rest ih => exact congrArg Nat.succ (ih _ _)

end

theorem settle_of_fits {capacity : Nat} {told : List Command} (fits : ∀ c ∈ told, c.fits capacity = true) (m : Memory) :
    m.settle capacity told = (.accepted told, m.learn told) := by
  have all : told.takeWhile (Command.fits capacity) = told := List.takeWhile_eq_self_iff.2 fits
  unfold settle
  rw [all]
  exact Prod.ext (if_pos rfl) rfl

theorem settle_of_unfit {capacity : Nat} {told rest : List Command} {c : Command}
    (fits : ∀ c ∈ told, c.fits capacity = true) (unfit : c.fits capacity = false) (m : Memory) :
    m.settle capacity (told ++ c :: rest) = (.rejected told, m.learn told) := by
  have some : (told ++ c :: rest).takeWhile (Command.fits capacity) = told := by
    rw [List.takeWhile_append_of_pos fits, List.takeWhile_cons_of_neg (by rw [unfit]; decide), List.append_nil]
  unfold settle
  rw [some]
  refine Prod.ext (if_neg ?_) rfl
  rw [List.length_append, List.length_cons]
  omega

theorem learn_append (m : Memory) (a b : List Command) : m.learn (a ++ b) = (m.learn a).learn b := by
  unfold learn
  rw [List.filterMap_append, List.foldl_append]

end Memory

theorem Report.after_append (r : Report) (a b : List Fate) : r.after (a ++ b) = (r.after a).after b := by
  unfold Report.after
  simp only [List.flatMap_append, List.length_append, List.count_append, List.countP_append, Nat.add_assoc]

/-! ### Lines handed to an open channel -/

namespace Channel

/-- A channel of this capacity that is not shut down. -/
structure Open (capacity : Nat) (t : Channel) : Prop where
  sound : t.Sound
  isOpen : t.closed = false
  capacity : t.batch.capacity = capacity

variable {t : Channel} {line : String} {w : World} {r : Attempt DeliveryError Channel Unit} {capacity : Nat}

theorem Sends.closed_eq (h : Sends t line w r) : r.state.closed = t.closed := by
  cases h <;> rfl

/-- An error that does not pass has changed nothing. -/
theorem Sends.lasting (h : Sends t line w r) {e : DeliveryError} (failed : r.result = .error e)
    (lasting : e.isTransient = false) :
    (t.closed = true ∨ t.batch.capacity ≤ line.utf8ByteSize) ∧ r.state = t ∧ r.world = w := by
  cases h with
  | closed isClosed => exact ⟨.inl isClosed, rfl, rfl⟩
  | tooLong _ long => exact ⟨.inr long, rfl, rfl⟩
  | throttled wait =>
    cases failed
    cases lasting
  | missed e' outcome outage w' _ _ _ _ failure =>
    cases failed
    rw [(Link.isTransient_of_dialError? failure).1] at lasting
    cases lasting
  | lost reason =>
    cases failed
    cases lasting
  | appended => cases failed
  | begun => cases failed
  | moved => cases failed

theorem send_of_long (isOpen : t.closed = false) (line : String) (long : t.batch.capacity ≤ line.utf8ByteSize)
    (w : World) : t.send line w = .fail (.lineTooLong line.utf8ByteSize t.batch.capacity) t w := by
  unfold send
  dsimp only
  rw [if_neg (by simp [isOpen]), if_pos long]

theorem Open.send (ready : t.Open capacity) (line : String) (w : World) : (t.send line w).state.Open capacity := by
  have sends := send_cases ready.sound line w
  exact ⟨sends.sound ready.sound, sends.closed_eq.trans ready.isOpen, sends.capacity.trans ready.capacity⟩

end Channel

namespace Work

variable {capacity : Nat} {k k₁ k₂ : Work} {w w₁ w₂ : World}

def memory (k : Work) : Memory := ⟨k.writer.filter, k.writer.described⟩

/-- What handing over a command can come to, if the channel is open. -/
inductive Offers (capacity : Nat) (k : Work) (c : Command) (w : World) : Attempt WriteError Work Unit → Prop where
  | taken (line : String) (channel : Channel) (w' : World) (rendered : c.line = .ok line)
    (fits : c.fits capacity = true) (ready : channel.Open capacity)
    (accepted : w'.acceptedLines = w.acceptedLines ++ [line]) :
    Offers capacity k c w (.done () ({ k with writer := { k.writer with channel } } : Work).countLine w')
  | refused (e : WriteError) (lasting : e.errorClass = .lasting) (unfit : c.fits capacity = false) :
    Offers capacity k c w (.fail e k w)
  | stopped (e : DeliveryError) (channel : Channel) (w' : World) (passing : e.isTransient = true)
    (ready : channel.Open capacity) (accepted : w'.acceptedLines = w.acceptedLines) :
    Offers capacity k c w (.fail (.delivery e) { k with writer := { k.writer with channel } } w')

theorem send_cases (ready : k.writer.channel.Open capacity) (c : Command) (w : World) :
    Offers capacity k c w (k.send c w) := by
  unfold send Writer.sendCommand
  cases rendered : c.line with
  | error e =>
    have unfit : c.fits capacity = false := by
      unfold Command.fits
      rw [rendered]
    exact .refused (.command e) rfl unfit
  | ok line =>
    have sends := Channel.send_cases ready.sound line w
    have ready' := ready.send line w
    have accepted := sends.acceptedLines
    have fits : c.fits capacity = decide (line.utf8ByteSize < capacity) := by
      unfold Command.fits
      rw [rendered]
    dsimp only
    unfold Writer.sendLine Attempt.within Attempt.mapError
    cases result : (k.writer.channel.send line w).result with
    | ok _ =>
      rw [result] at accepted
      refine .taken line _ _ rendered ?_ ready' accepted
      -- a line that is too long would have been refused
      rw [fits, decide_eq_true_eq]
      by_contra long
      have refused := Channel.send_of_long ready.isOpen line (by rw [ready.capacity]; omega) w
      rw [refused] at result
      cases result
    | error e =>
      rw [result] at accepted
      cases passing : e.isTransient with
      | true => exact .stopped e _ _ passing ready' (accepted.trans (List.append_nil _))
      | false =>
        obtain ⟨why, state, world⟩ := sends.lasting result passing
        have unfit : c.fits capacity = false := by
          rcases why with isClosed | long
          · rw [ready.isOpen] at isClosed
            cases isClosed
          · rw [fits, decide_eq_false_iff_not, ← ready.capacity]
            omega
        rw [state, world]
        exact .refused (.delivery e) (WriteError.errorClass_of_lasting passing) unfit

/-! ### Commands told one after the other -/

/-- The second state of work is the first one after these commands were accepted; the channel is still open. -/
structure Grows (capacity : Nat) (k : Work) (w : World) (told : List Command) (k' : Work) (w' : World) : Prop where
  ready : k'.writer.channel.Open capacity
  node : k'.writer.node = k.writer.node
  lastProperty : k'.writer.lastProperty = k.writer.lastProperty
  counts : k'.writer.counts = k.writer.counts
  accepted : ∃ lines, told.map Command.line = lines.map Except.ok ∧ w'.acceptedLines = w.acceptedLines ++ lines
  values : ∀ c ∈ told, c.isProperty = false

theorem Grows.start (ready : k.writer.channel.Open capacity) (w : World) : Grows capacity k w [] k w :=
  ⟨ready, rfl, rfl, rfl, ⟨[], rfl, (List.append_nil _).symm⟩, fun c hc => by cases hc⟩

theorem Grows.trans {a b : List Command} (h₁ : Grows capacity k w a k₁ w₁) (h₂ : Grows capacity k₁ w₁ b k₂ w₂) :
    Grows capacity k w (a ++ b) k₂ w₂ where
  ready := h₂.ready
  node := h₂.node.trans h₁.node
  lastProperty := h₂.lastProperty.trans h₁.lastProperty
  counts := h₂.counts.trans h₁.counts
  accepted := by
    obtain ⟨lines₁, rendered₁, accepted₁⟩ := h₁.accepted
    obtain ⟨lines₂, rendered₂, accepted₂⟩ := h₂.accepted
    refine ⟨lines₁ ++ lines₂, ?_, ?_⟩
    · rw [List.map_append, List.map_append, rendered₁, rendered₂]
    · rw [accepted₂, accepted₁, List.append_assoc]
  values c hc := by
    rcases List.mem_append.1 hc with hc | hc
    · exact h₁.values c hc
    · exact h₂.values c hc

theorem Grows.note {told : List Command} {report : Report} (h : Grows capacity k w told k₁ w₁)
    (notes : w₁.Leads [] w₂) : Grows capacity k w told { k₁ with report } w₂ := by
  obtain ⟨lines, rendered, accepted⟩ := h.accepted
  have same : w₂.acceptedLines = w₁.acceptedLines := notes.acceptedLines.trans (List.append_nil _)
  exact ⟨h.ready, h.node, h.lastProperty, h.counts, ⟨lines, rendered, same.trans accepted⟩, h.values⟩

/-- How telling commands ends, with these commands left. -/
inductive Halts (capacity : Nat) : Except WriteError Unit → List Command → Prop where
  | done : Halts capacity (.ok ()) []
  | refused {e : WriteError} {c : Command} {rest : List Command} (lasting : e.errorClass = .lasting)
    (unfit : c.fits capacity = false) : Halts capacity (.error e) (c :: rest)
  | stopped {e : DeliveryError} {rest : List Command} (passing : e.isTransient = true) :
    Halts capacity (.error (.delivery e)) rest

/-- The attempt has told these commands, or as many of them as it could. -/
def Tells (capacity : Nat) (k : Work) (commands : List Command) (w : World) (r : Attempt WriteError Work Unit) : Prop :=
  ∃ told rest, commands = told ++ rest ∧ Grows capacity k w told r.state r.world ∧
    (∀ c ∈ told, c.fits capacity = true) ∧ r.state.memory = k.memory.learn told ∧
    r.state.report = { k.report with lines := k.report.lines + told.length } ∧ Halts capacity r.result rest

theorem Tells.andThen {a b : List Command} {r : Attempt WriteError Work Unit}
    {next : Unit → Work → World → Attempt WriteError Work Unit} (h : Tells capacity k a w r)
    (hn : r.state.writer.channel.Open capacity → r.state.writer.node = k.writer.node →
      r.state.memory = k.memory.learn a → Tells capacity r.state b r.world (next () r.state r.world)) :
    Tells capacity k (a ++ b) w (r.andThen next) := by
  obtain ⟨told, rest, rfl, grows, fits, memory, report, halts⟩ := h
  generalize result : r.result = res at halts
  cases halts with
  | done =>
    rw [List.append_nil] at hn ⊢
    obtain ⟨told', rest', rfl, grows', fits', memory', report', halts'⟩ := hn grows.ready grows.node memory
    rw [Attempt.andThen_of_ok result]
    refine ⟨told ++ told', rest', (List.append_assoc ..).symm, grows.trans grows', ?_, ?_, ?_, halts'⟩
    · intro c hc
      rcases List.mem_append.1 hc with hc | hc
      · exact fits c hc
      · exact fits' c hc
    · rw [memory', memory, Memory.learn_append]
    · rw [report', report, List.length_append, Nat.add_assoc]
  | @refused e c rest lasting unfit =>
    rw [Attempt.andThen_of_error result]
    exact ⟨told, c :: rest ++ b, List.append_assoc .., grows, fits, memory, report, .refused lasting unfit⟩
  | @stopped e rest passing =>
    rw [Attempt.andThen_of_error result]
    exact ⟨told, rest ++ b, List.append_assoc .., grows, fits, memory, report, .stopped passing⟩

theorem tells_nothing (ready : k.writer.channel.Open capacity) (w : World) : Tells capacity k [] w (.done () k w) :=
  ⟨[], [], rfl, .start ready w, by simp, rfl, rfl, .done⟩

/-- The writer has learnt of this command. -/
def note (k : Work) (c : Command) : Work :=
  { k with writer := { k.writer with described := (k.memory.learn [c]).described } }

theorem tells_send_note (ready : k.writer.channel.Open capacity) {c : Command} (value : c.isProperty = false)
    (w : World) : Tells capacity k [c] w ((k.send c w).andThen fun _ k w => .done () (k.note c) w) := by
  have offers := send_cases ready c w
  generalize k.send c w = r at offers
  cases offers with
  | taken line channel w' rendered fits ready accepted =>
    refine ⟨[c], [], rfl, ⟨ready, rfl, rfl, rfl, ⟨[line], ?_, accepted⟩, ?_⟩, ?_, rfl, rfl, .done⟩
    · rw [List.map_singleton, List.map_singleton, rendered]
    · simpa using value
    · simpa using fits
  | refused e lasting unfit =>
    exact ⟨[], [c], rfl, .start ready w, by simp, rfl, rfl, .refused lasting unfit⟩
  | stopped e channel w' passing ready accepted =>
    have accepted : w'.acceptedLines = w.acceptedLines ++ [] := accepted.trans (List.append_nil _).symm
    exact ⟨[], [c], rfl, ⟨ready, rfl, rfl, rfl, ⟨[], rfl, accepted⟩, by simp⟩, by simp, rfl, rfl, .stopped passing⟩

theorem tells_command (ready : k.writer.channel.Open capacity) (s : Series) (w : World) :
    Tells capacity k [s.command] w (k.send s.command w) := by
  -- the value of a series teaches the writer nothing
  have tells := tells_send_note (c := s.command) ready rfl w
  have same : (k.send s.command w).andThen (fun _ k w => .done () (k.note s.command) w) = k.send s.command w :=
    Attempt.andThen_done _
  rwa [same] at tells

theorem tells_sendSeries (ready : k.writer.channel.Open capacity) (s : Series) (w : World) :
    Tells capacity k (k.memory.tell k.writer.node.metricDefinitions s) w (k.sendSeries s w) := by
  have described : Tells capacity k
      (if k.writer.node.metricDefinitions && !k.writer.described.contains s.metric then [s.definition] else []) w
      (k.describe s w) := by
    unfold describe
    split
    · exact tells_send_note (c := s.definition) ready rfl w
    · exact tells_nothing ready w
  exact described.andThen fun ready _ _ => tells_command ready s _

theorem tells_sendAll (all : List Series) (ready : k.writer.channel.Open capacity) (w : World) :
    Tells capacity k (k.memory.tellAll k.writer.node.metricDefinitions all) w (k.sendAll all w) := by
  induction all generalizing k w with
  | nil => exact tells_nothing ready w
  | cons s rest ih =>
    refine (tells_sendSeries ready s w).andThen fun ready node memory => ?_
    rw [← memory, ← node]
    exact ih ready _

/-! ### Values -/

/-- The second state of work is the first one after values with these fates, and has learnt and counted what came of
them. -/
structure Bears (capacity : Nat) (k : Work) (w : World) (fates : List Fate) (m : Memory) (k' : Work) (w' : World) :
    Prop where
  grows : Grows capacity k w (fates.flatMap Fate.told) k' w'
  memory : k'.memory = m
  report : k'.report = k.report.after fates

/-- The second state of work has counted the lines accepted since the first one, and the values suppressed. -/
structure Balanced (capacity : Nat) (k : Work) (w : World) (k' : Work) (w' : World) : Prop where
  lines : ∃ told, Grows capacity k w told k' w' ∧ k'.report.lines = k.report.lines + told.length
  suppressed : k'.report.suppressed + k.writer.filter.suppressed = k.report.suppressed + k'.writer.filter.suppressed

/-- The values have met their fates, or an error that may pass has ended the sample. -/
inductive Fares (capacity : Nat) (k : Work) (fates : List Fate × Memory) (w : World)
    (r : Attempt WriteError Work Unit) : Prop where
  | done (result : r.result = .ok ()) (bears : Bears capacity k w fates.1 fates.2 r.state r.world)
    (balanced : Balanced capacity k w r.state r.world)
  | stopped (e : DeliveryError) (result : r.result = .error (.delivery e)) (passing : e.isTransient = true)
    (balanced : Balanced capacity k w r.state r.world)

theorem Bears.trans {a b : List Fate} {m₁ m₂ : Memory} (h₁ : Bears capacity k w a m₁ k₁ w₁)
    (h₂ : Bears capacity k₁ w₁ b m₂ k₂ w₂) : Bears capacity k w (a ++ b) m₂ k₂ w₂ where
  grows := by
    rw [List.flatMap_append]
    exact h₁.grows.trans h₂.grows
  memory := h₂.memory
  report := by rw [h₂.report, h₁.report, Report.after_append]

theorem Balanced.trans (h₁ : Balanced capacity k w k₁ w₁) (h₂ : Balanced capacity k₁ w₁ k₂ w₂) :
    Balanced capacity k w k₂ w₂ where
  lines := by
    obtain ⟨told₁, grows₁, lines₁⟩ := h₁.lines
    obtain ⟨told₂, grows₂, lines₂⟩ := h₂.lines
    refine ⟨told₁ ++ told₂, grows₁.trans grows₂, ?_⟩
    rw [lines₂, lines₁, List.length_append, Nat.add_assoc]
  suppressed := by
    have := h₁.suppressed
    have := h₂.suppressed
    omega

theorem Fares.andThen {f g : List Fate × Memory} {r : Attempt WriteError Work Unit}
    {next : Unit → Work → World → Attempt WriteError Work Unit} (h : Fares capacity k f w r)
    (hn : r.state.writer.channel.Open capacity → r.state.writer.node = k.writer.node → r.state.memory = f.2 →
      Fares capacity r.state g r.world (next () r.state r.world)) :
    Fares capacity k (f.1 ++ g.1, g.2) w (r.andThen next) := by
  cases h with
  | stopped e result passing balanced =>
    rw [Attempt.andThen_of_error result]
    exact .stopped e rfl passing balanced
  | done result bears balanced =>
    rw [Attempt.andThen_of_ok result]
    cases hn bears.grows.ready bears.grows.node bears.memory with
    | stopped e result' passing balanced' => exact .stopped e result' passing (balanced.trans balanced')
    | done result' bears' balanced' => exact .done result' (bears.trans bears') (balanced.trans balanced')

theorem balanced_of_grows {told : List Command} {k' : Work} {w' : World} (grows : Grows capacity k w told k' w')
    (memory : k'.memory = k.memory.learn told)
    (report : k'.report = { k.report with lines := k.report.lines + told.length }) : Balanced capacity k w k' w' := by
  have filter : k'.writer.filter = k.writer.filter := congrArg Memory.filter memory
  refine ⟨⟨told, grows, by rw [report]⟩, ?_⟩
  rw [filter, report]

theorem settle_of_lasting {r : Attempt WriteError Work Unit} {e : WriteError} (result : r.result = .error e)
    (lasting : e.errorClass = .lasting) (s : Sample) (ds : DataSource) : ∃ w', r.world.Leads [] w' ∧
      settle s ds r =
        .done () { r.state with report := { r.state.report with rejected := r.state.report.rejected + 1 } } w' := by
  unfold settle
  rw [result]
  exact ⟨_, World.leads_log _ _ _ _, if_pos lasting⟩

/-- An error that may pass is not settled. -/
theorem settle_of_passing {r : Attempt WriteError Work Unit} {e : DeliveryError}
    (result : r.result = .error (.delivery e)) (passing : e.isTransient = true) (s : Sample) (ds : DataSource) :
    settle s ds r = r := by
  unfold settle
  rw [result]
  dsimp only
  rw [WriteError.errorClass_of_passing passing, if_neg nofun]

/-- A lasting error, after some commands, rejects the value. -/
theorem fares_rejected {told : List Command} {r : Attempt WriteError Work Unit} {e : WriteError}
    (result : r.result = .error e) (lasting : e.errorClass = .lasting) (grows : Grows capacity k w told r.state r.world)
    (memory : r.state.memory = k.memory.learn told)
    (report : r.state.report = { k.report with lines := k.report.lines + told.length }) (s : Sample) (ds : DataSource) :
    Fares capacity k ([.rejected told], k.memory.learn told) w (settle s ds r) := by
  let k' : Work := { r.state with report := { r.state.report with rejected := r.state.report.rejected + 1 } }
  obtain ⟨w', notes, rejected⟩ := settle_of_lasting result lasting s ds
  have balanced := balanced_of_grows grows memory report
  have grows : Grows capacity k w told k' w' := grows.note notes
  rw [rejected]
  refine .done rfl ⟨?_, memory, ?_⟩ ⟨⟨told, grows, ?_⟩, balanced.suppressed⟩
  · rw [List.flatMap_singleton]
    exact grows
  · show { r.state.report with rejected := r.state.report.rejected + 1 } = k.report.after [.rejected told]
    rw [report, Report.after, List.flatMap_singleton]
    rfl
  · show r.state.report.lines = _
    rw [report]

/-- A value whose commands were told, or as many of them as could be. -/
theorem fares_settle {commands : List Command} {r : Attempt WriteError Work Unit} (h : Tells capacity k commands w r)
    (s : Sample) (ds : DataSource) :
    Fares capacity k ([(k.memory.settle capacity commands).1], (k.memory.settle capacity commands).2) w
      (settle s ds r) := by
  obtain ⟨told, rest, rfl, grows, fits, memory, report, halts⟩ := h
  have balanced := balanced_of_grows grows memory report
  generalize result : r.result = res at halts
  cases halts with
  | done =>
    have same : settle s ds r = r := by
      unfold settle
      rw [result]
    rw [List.append_nil, Memory.settle_of_fits fits, same]
    refine .done result ⟨?_, memory, ?_⟩ balanced
    · rw [List.flatMap_singleton]
      exact grows
    · rw [report, Report.after, List.flatMap_singleton]
      rfl
  | stopped passing =>
    rw [settle_of_passing result passing]
    exact .stopped _ result passing balanced
  | refused lasting unfit =>
    rw [Memory.settle_of_unfit fits unfit]
    exact fares_rejected result lasting grows memory report s ds

/-- A value that is skipped or suppressed. -/
theorem fares_silently {fate : Fate} (ready : k.writer.channel.Open capacity) (silent : fate.told = [])
    {filter : ChangeFilter} (counted : filter.suppressed = k.writer.filter.suppressed + [fate].count .suppressed)
    (w : World) : Fares capacity k ([fate], { k.memory with filter }) w
      (.done () { writer := { k.writer with filter }, report := k.report.after [fate] } w) := by
  have none : [fate].flatMap Fate.told = [] := by rw [List.flatMap_singleton, silent]
  have start : Grows capacity k w [] { writer := { k.writer with filter }, report := k.report.after [fate] } w :=
    ⟨ready, rfl, rfl, rfl, ⟨[], rfl, (List.append_nil _).symm⟩, by simp⟩
  refine .done rfl ⟨?_, rfl, rfl⟩ ⟨⟨[], start, ?_⟩, ?_⟩
  · rw [none]
    exact start
  · show k.report.lines + _ = _
    rw [none]
  · show k.report.suppressed + _ + k.writer.filter.suppressed = _ + filter.suppressed
    rw [counted]
    omega

/-- The filter was asked before, and has suppressed nothing. -/
theorem Fares.ofChecked {filter : ChangeFilter} {f : List Fate × Memory} {r : Attempt WriteError Work Unit}
    (h : Fares capacity { k with writer := { k.writer with filter } } f w r)
    (counted : filter.suppressed = k.writer.filter.suppressed) : Fares capacity k f w r := by
  have grows {told : List Command} {k' : Work} {w' : World}
      (h : Grows capacity { k with writer := { k.writer with filter } } w told k' w') : Grows capacity k w told k' w' :=
    ⟨h.ready, h.node, h.lastProperty, h.counts, h.accepted, h.values⟩
  have balanced (h : Balanced capacity { k with writer := { k.writer with filter } } w r.state r.world) :
      Balanced capacity k w r.state r.world := by
    obtain ⟨⟨told, grown, lines⟩, suppressed⟩ := h
    refine ⟨⟨told, grows grown, lines⟩, ?_⟩
    rw [← counted]
    exact suppressed
  cases h with
  | stopped e result passing h => exact .stopped e result passing (balanced h)
  | done result bears h => exact .done result ⟨grows bears.grows, bears.memory, bears.report⟩ (balanced h)

theorem fares_writeObservation (ready : k.writer.channel.Open capacity) (o : Observation) (w : World) (s : Sample)
    (ds : DataSource) :
    let f := match o.derive with
      | .ok all => k.memory.settle capacity (k.memory.tellAll k.writer.node.metricDefinitions all)
      | .error _ => (.rejected [], k.memory)
    Fares capacity k ([f.1], f.2) w (settle s ds (k.writeObservation o w)) := by
  unfold writeObservation
  cases o.derive with
  | ok all => exact fares_settle (tells_sendAll all ready w) s ds
  | error e => exact fares_rejected (e := .series e) rfl rfl (.start ready w) rfl rfl s ds

theorem fares_writeValue (ready : k.writer.channel.Open capacity) (s : Sample) (entity : String) (index : Nat)
    (ds : DataSource) (w : World) :
    let f := k.memory.fate k.writer.node capacity s entity index ds
    Fares capacity k ([f.1], f.2) w (k.writeValue s entity index ds w) := by
  unfold writeValue Memory.fate
  dsimp only
  split
  · exact fares_silently ready rfl rfl w
  · have counted := k.writer.filter.suppressed_judge ⟨s.key, ds.value.text (s.rate? index), s.time⟩
    rw [ChangeFilter.check_eq]
    unfold memory
    dsimp only
    generalize (k.writer.filter.judge ⟨s.key, ds.value.text (s.rate? index), s.time⟩).2 = filter at counted ⊢
    generalize k.writer.filter.decision ⟨s.key, ds.value.text (s.rate? index), s.time⟩ = decision at counted ⊢
    cases decision with
    | suppress => exact fares_silently ready rfl counted w
    | send =>
      let k' : Work := { k with writer := { k.writer with filter } }
      have fares := fares_writeObservation (k := k') ready
        ⟨s, index, entity, k.writer.node.namePrefix, k.writer.node.maxNameLength, ds.value.text (s.rate? index)⟩ w s ds
      exact fares.ofChecked counted

theorem fares_writeValues (s : Sample) (entity : String) (values : List DataSource) (index : Nat)
    (ready : k.writer.channel.Open capacity) (w : World) :
    Fares capacity k (k.memory.fates k.writer.node capacity s entity index values) w
      (k.writeValues s entity index values w) := by
  induction values generalizing k index w with
  | nil =>
    have start := Grows.start ready w
    exact .done rfl ⟨start, rfl, rfl⟩ ⟨⟨[], start, rfl⟩, rfl⟩
  | cons ds rest ih =>
    refine (fares_writeValue ready s entity index ds w).andThen fun ready node memory => ?_
    rw [← memory, ← node]
    exact ih (index + 1) ready _

end Work

/-! ### Samples -/

namespace Writer

/-- What a writer has learnt. -/
def memory (x : Writer) : Memory := ⟨x.filter, x.described⟩

/-- The fates of the values of a sample, if no error ends it. -/
def fates (x : Writer) (s : Sample) (entity : String) : List Fate × Memory :=
  x.memory.fates x.node x.channel.batch.capacity s entity 0 s.values

/-- What writing a sample can come to. -/
inductive Writes (x : Writer) (s : Sample) (w : World) : Attempt WriteError Writer Report → Prop where
  | invalid (e : WriteError) (unprepared : x.prepare s w = .error e) : Writes x s w (x.turnedDown s e w)
  | closed (entity : String) (prepared : x.prepare s w = .ok entity) (isClosed : x.channel.closed = true) :
    Writes x s w (concluded s (.fail (.delivery .closed) { writer := x } w))
  | fares (entity : String) (r : Attempt WriteError Work Unit) (prepared : x.prepare s w = .ok entity)
    (fares : Work.Fares x.channel.batch.capacity { writer := x } (x.fates s entity) w r) :
    Writes x s w (concluded s r)

theorem write_cases {x : Writer} (sound : x.channel.Sound) (s : Sample) (w : World) : Writes x s w (x.write s w) := by
  cases prepared : x.prepare s w with
  | error e =>
    rw [write_of_unprepared prepared]
    exact .invalid e prepared
  | ok entity =>
    rw [write_of_prepared prepared]
    unfold Work.writeSample
    split
    · exact .closed entity prepared ‹_›
    · have isOpen : x.channel.closed = false := by simpa using ‹¬x.channel.closed = true›
      have ready : ({ writer := x } : Work).writer.channel.Open x.channel.batch.capacity := ⟨sound, isOpen, rfl⟩
      exact .fares entity _ prepared (Work.fares_writeValues s entity s.values 0 ready w)

/-! ### What stays -/

variable {x : Writer}

theorem node_write (sound : x.channel.Sound) (s : Sample) (w : World) : (x.write s w).state.node = x.node := by
  have writes := write_cases sound s w
  generalize x.write s w = r at writes
  cases writes with
  | invalid => rfl
  | closed => rfl
  | fares entity r _ fares =>
    have node : r.state.writer.node = x.node := by
      cases fares with
      | done _ bears => exact bears.grows.node
      | stopped _ _ _ balanced =>
        obtain ⟨told, grows, -⟩ := balanced.lines
        exact grows.node
    unfold concluded
    dsimp only
    split
    · exact node
    · exact node

theorem node_writeProperty (p : Property) (w : World) : (x.writeProperty p w).state.node = x.node := by
  unfold writeProperty
  split
  · rfl
  · split
    · rfl
    · unfold sendProperty
      dsimp only
      split <;> rfl

/-- No operation changes the settings. -/
theorem node_act (sound : x.channel.Sound) (op : Op) (w : World) : (act op x w).state.node = x.node := by
  cases op with
  | write s =>
    rw [act_write_eq]
    exact node_write sound s w
  | flush timeout =>
    rw [act_flush_eq]
    unfold flush
    dsimp only
    split <;> rfl
  | property p =>
    rw [act_property_eq]
    exact node_writeProperty p w
  | propertyIfDue p =>
    rw [act_propertyIfDue_eq]
    cases due : x.propertyDue w.now with
    | false => rw [writePropertyIfDue_of_early due, Attempt.done]
    | true =>
      rw [writePropertyIfDue_of_due due]
      exact node_writeProperty p w
  | shutdown =>
    rw [act_shutdown_eq]
    unfold shutdown
    split <;> rfl

end Writer

end MetricFeed
