import MetricFeed.Proofs.Closing
import MetricFeed.Proofs.Isolation

/-!
# The last lines of a run

A run reads lines, ticks while time passes, and shuts the writer down.  In whatever order lines and ticks come, the
lines accepted so far are those of the blocks handed to a link and of the text that waits
(`Run.Accounted.follow`), and the shutdown hands over that text, too (`Run.Accounted.finish`).  A run that comes to its
end has thus handed over every line it accepted.  But one that fails to read its input stops without a shutdown, and
what waits then is lost (`Options.run_flushed`).
-/

namespace MetricFeed

/-- Every line that was accepted is in a block that was handed to a link. -/
def World.Flushed (w : World) : Prop :=
  Grouped w.acceptedLines w.handed ""

/-- Nothing is missing exactly if nothing waits. -/
theorem Grouped.flushed_iff {w : World} {rest : String} (h : Grouped w.acceptedLines w.handed rest) :
    w.Flushed ↔ rest = "" := by
  constructor
  · intro flushed
    have all := flushed.join_eq
    rw [h.join_eq, String.append_empty] at all
    simpa using all
  · rintro rfl
    exact h

namespace Run

/-! ### Lines and ticks in any order -/

/-- What a run does before its end. -/
inductive Deed where
  | line (number : Nat) (text : String)
  | tick
  /-- Time passes, and the machine may get another name. -/
  | pass (c : Call Unit)

def Deed.perform (p : Property) (d : Deed) (s : Writer × World) : Writer × World :=
  match d with
  | .line number text => takeLine s.1 number text s.2
  | .tick => Run.tick s.1 p s.2
  | .pass c => (s.1, s.2.atCall c)

def follow (p : Property) (s : Writer × World) (deeds : List Deed) : Writer × World :=
  deeds.foldl (fun s d => d.perform p s) s

/-- What the writer accepted went out in blocks or waits in it. -/
def Accounted (s : Writer × World) : Prop :=
  s.1.channel.Accounted s.2

variable {s : Writer × World} {p : Property}

theorem Accounted.act (h : Accounted s) (op : Writer.Op) :
    Accounted ((Writer.act op s.1 s.2).state, (Writer.act op s.1 s.2).world) :=
  Channel.upheld_accounted.writer_act h.sound h op

theorem Accounted.log (h : Accounted s) (level : Level) (message : String) (fields : List (String × String)) :
    Accounted (s.1, s.2.log level message fields) :=
  Channel.Accounted.note h (s.2.leads_log level message fields)

theorem Accounted.takeLine (h : Accounted s) (number : Nat) (text : String) :
    Accounted (takeLine s.1 number text s.2) := by
  unfold Run.takeLine
  split
  · exact h
  · split
    · rename_i sample _
      have written := h.act (.write sample)
      rw [Writer.act_write_eq] at written
      exact written
    · exact h.log _ _ _

theorem Accounted.tick (h : Accounted s) (p : Property) : Accounted (tick s.1 p s.2) := by
  have sent := (h.act (.flush (Micros.ofMillis s.1.node.flushInterval))).act (.propertyIfDue p)
  rw [Writer.act_propertyIfDue_eq, Writer.act_flush_eq] at sent
  unfold Run.tick
  dsimp only
  split
  · exact sent
  · exact sent.log _ _ _

theorem Accounted.perform (h : Accounted s) (d : Deed) : Accounted (d.perform p s) := by
  cases d with
  | line number text => exact h.takeLine number text
  | tick => exact h.tick p
  | pass c => exact Channel.Accounted.leads h rfl

theorem Accounted.follow (h : Accounted s) (deeds : List Deed) : Accounted (follow p s deeds) := by
  induction deeds generalizing s with
  | nil => exact h
  | cons d deeds ih => exact ih (h.perform d)

theorem Accounted.grouped (h : Accounted s) : Grouped s.2.acceptedLines s.2.handed s.1.channel.batch.text :=
  h.ledger.grouped

theorem Accounted.begun (settings : Settings) (network : Network) (now wall : Int) (machine : HostAnswer) :
    Accounted (Options.begun settings (.fresh network now wall machine)) :=
  Channel.Accounted.note (.start _ _ _ _ network now wall machine) ⟨rfl, rfl, rfl, rfl, rfl⟩

/-! ### The end -/

/-- A shutdown hands over what waits, whatever becomes of the block. -/
theorem Accounted.finish (h : Accounted s) : (finish s.1 s.2).world.Flushed := by
  have ended := h.act .shutdown
  have waiting := (Writer.over_shutdown h.sound s.2).empty
  rw [Writer.act_shutdown_eq] at ended waiting
  have flushed : (s.1.shutdown s.2).world.Flushed := ended.grouped.flushed_iff.2 waiting
  unfold Run.finish
  dsimp only
  split
  · exact flushed
  · exact (ended.log _ _ _).grouped.flushed_iff.2 waiting

theorem failure_finish (x : Writer) (w : World) : (Ending.ofAttempt (Run.finish x w)).failure ≠ some .reading := by
  unfold Run.finish
  dsimp only
  split <;> exact nofun

/-! ### The deeds of a run -/

/-- The lines up to the first that cannot be read, the first of which has this number. -/
def lineDeeds (number : Nat) : List (Option String) → List Deed
  | [] => []
  | none :: _ => []
  | some text :: rest => .line number text :: lineDeeds (number + 1) rest

def tickDeeds (ticks : List (Call Unit)) : List Deed :=
  ticks.flatMap fun c => [.pass c, .tick]

theorem takeLines_eq (p : Property) (x : Writer) (number : Nat) (w : World) (lines : List (Option String)) :
    takeLines x number w lines =
      ⟨if none ∈ lines then .error .reading else .ok (), (follow p (x, w) (lineDeeds number lines)).1,
        (follow p (x, w) (lineDeeds number lines)).2⟩ := by
  induction lines generalizing x number w with
  | nil => rfl
  | cons line rest ih =>
    cases line with
    | none => simp [takeLines, lineDeeds, follow, Attempt.fail]
    | some text =>
      unfold takeLines
      dsimp only
      rw [ih]
      simp [lineDeeds, follow, Deed.perform]

theorem runTicks_eq (p : Property) (x : Writer) (w : World) (ticks : List (Call Unit)) :
    runTicks x p w (ticks.map fun c w => w.atCall c) = follow p (x, w) (tickDeeds ticks) := by
  induction ticks generalizing x w with
  | nil => rfl
  | cons c ticks ih => exact ih _ _

/-! ### Inputs that cannot be read -/

/-- The bytes are those of a text. -/
def IsText (bs : List UInt8) : Prop :=
  ∃ t, Text.bytes t = bs

theorem lineText?_eq_none_iff {line : List UInt8} : lineText? line = none ↔ ¬IsText line := by
  unfold lineText?
  constructor
  · rintro none ⟨t, rfl⟩
    rw [Text.ofBytes?_bytes] at none
    cases none
  · intro broken
    rw [Option.eq_none_iff_forall_ne_some]
    exact fun t text => broken ⟨t, Text.bytes_of_ofBytes? text⟩

theorem IsText.append {a b : List UInt8} (ha : IsText a) (hb : IsText b) : IsText (a ++ b) := by
  obtain ⟨s, rfl⟩ := ha
  obtain ⟨t, rfl⟩ := hb
  refine ⟨s ++ t, ?_⟩
  unfold Text.bytes
  rw [String.toByteArray_append, ByteArray.data_append, Array.toList_append]

theorem IsText.of_dropReturn {line : List UInt8} (h : IsText (dropReturn line)) : IsText line := by
  unfold dropReturn at h
  split at h
  · rename_i last
    rw [← List.dropLast_append_getLast? 13 last]
    exact h.append ⟨"\r", by decide⟩
  · exact h

/-- If every line is a text, so are all the bytes. -/
theorem isText_of_lines {line bs : List UInt8} (h : none ∉ linesFrom line false bs) : IsText (line.reverse ++ bs) := by
  induction bs generalizing line with
  | nil =>
    rw [List.append_nil]
    by_cases start : line = []
    · rw [start]
      exact ⟨"", rfl⟩
    · have last : linesFrom line false [] = [lineText? line.reverse] := by simp [linesFrom, start]
      rw [last, List.mem_singleton] at h
      exact Classical.byContradiction fun broken => h (lineText?_eq_none_iff.2 broken).symm
  | cons b bs ih =>
    unfold linesFrom at h
    split at h
    · rename_i feed
      obtain ⟨first, others⟩ := not_or.1 (mt List.mem_cons.2 h)
      have text : IsText line.reverse := by
        apply IsText.of_dropReturn
        exact Classical.byContradiction fun broken => first (lineText?_eq_none_iff.2 broken).symm
      rw [feed, List.append_cons]
      exact (text.append ⟨"\n", by decide⟩).append (ih others)
    · rw [List.append_cons, ← List.reverse_cons]
      exact ih h

theorem none_mem_lines_of_fails {i : Input} (fails : i.fails = true) : none ∈ i.lines := by
  unfold Input.lines
  rw [fails]
  generalize ([] : List UInt8) = line
  induction i.bytes generalizing line with
  | nil => exact List.mem_singleton_self none
  | cons b bs ih =>
    unfold linesFrom
    split
    · exact List.mem_cons_of_mem _ (ih [])
    · exact ih (b :: line)

/-- An input can be read to its end if that does not fail and its bytes are a text. -/
theorem none_mem_lines_iff {i : Input} : none ∈ i.lines ↔ i.fails = true ∨ Text.ofBytes? i.bytes = none := by
  obtain ⟨bytes, fails⟩ := i
  cases fails with
  | true => exact ⟨fun _ => .inl rfl, fun _ => none_mem_lines_of_fails rfl⟩
  | false =>
    constructor
    · intro stops
      refine .inr (lineText?_eq_none_iff.2 ?_)
      rintro ⟨t, rfl⟩
      have whole : none ∉ (Input.ofText t).lines := by
        rw [lines_of_text]
        simp
      exact whole stops
    · rintro (⟨⟨⟩⟩ | broken)
      by_contra whole
      exact lineText?_eq_none_iff.1 broken (isText_of_lines whole)

end Run

namespace Options

/-- How a run ends whose settings are accepted. -/
theorem run_cases {o : Options} {env : Environment} {s : Settings} {ticks : List (Call Unit)} {input : Input}
    (accepted : env.settings o.config = .ok s) (reads : o.input? env = some input)
    (paused : env.pauses = ticks.map fun c w => w.atCall c) (w : World) :
    let p := Run.agentProperty (begun s w).2.machine
    let read := Run.follow p (begun s w) (Run.lineDeeds 1 input.lines)
    o.run env w = if none ∈ input.lines then ⟨some .reading, read.2⟩ else
      let ticked := Run.follow p read (Run.tickDeeds ticks)
      .ofAttempt (Run.finish ticked.1 ticked.2) := by
  intro p read
  rw [run_of_input accepted reads]
  unfold Run.deliver
  dsimp only
  rw [Run.takeLines_eq p, paused]
  by_cases stops : none ∈ input.lines
  · rw [if_pos stops, if_pos stops]
    rfl
  · rw [if_neg stops, if_neg stops]
    show Ending.ofAttempt (Run.finish _ _) = _
    rw [Run.runTicks_eq]

theorem run_of_missing {o : Options} {env : Environment} {s : Settings} (accepted : env.settings o.config = .ok s)
    (missing : o.input? env = none) (w : World) : (o.run env w).world = (begun s w).2 := by
  unfold input? at missing
  unfold Options.run
  rw [accepted]
  cases source : o.input with
  | none =>
    rw [source] at missing
    cases missing
  | some path =>
    rw [source] at missing
    dsimp only at missing ⊢
    cases file : env.file path with
    | missing => rfl
    | opened input =>
      rw [file] at missing
      cases missing

/-- A run hands over every line it accepted, unless its input is not a text or cannot be read to its end: then it stops
at the first line that cannot be read, and the text that waits is lost.  Also, in whatever order lines and ticks come,
what was accepted is in the blocks that were handed over and in the text that waits, and a shutdown hands over that
text. -/
theorem run_flushed (o : Options) (env : Environment) {s : Settings} {ticks : List (Call Unit)} (network : Network)
    (now wall : Int) (machine : HostAnswer) (accepted : env.settings o.config = .ok s)
    (paused : env.pauses = ticks.map fun c w => w.atCall c) :
    let w := World.fresh network now wall machine
    let ending := o.run env w
    let start := begun s w
    (∀ input, o.input? env = some input → input.fails = false → Text.ofBytes? input.bytes ≠ none →
      ending.world.Flushed ∧ ending.failure ≠ some .reading) ∧
    (∀ input, o.input? env = some input → (input.fails = true ∨ Text.ofBytes? input.bytes = none) →
      let read := Run.follow (Run.agentProperty machine) start (Run.lineDeeds 1 input.lines)
      ending = ⟨some .reading, read.2⟩ ∧ (ending.world.Flushed ↔ read.1.channel.batch.text = "")) ∧
    (o.input? env = none → ending.world.Flushed ∧ ending.world.acceptedLines = []) ∧
    ∀ deeds, let s := Run.follow (Run.agentProperty machine) start deeds
      Grouped s.2.acceptedLines s.2.handed s.1.channel.batch.text ∧ (Run.finish s.1 s.2).world.Flushed := by
  intro w ending start
  have fresh : Run.Accounted start := .begun s network now wall machine
  refine ⟨?_, ?_, ?_, ?_⟩
  · intro input reads complete text
    have whole : none ∉ input.lines := fun stops => by
      rcases Run.none_mem_lines_iff.1 stops with fails | broken
      · rw [fails] at complete
        cases complete
      · exact text broken
    have ends : ending = _ := run_cases accepted reads paused w
    rw [if_neg whole] at ends
    rw [ends]
    exact ⟨((fresh.follow _).follow _).finish, Run.failure_finish _ _⟩
  · intro input reads stops read
    have ends : ending = _ := run_cases accepted reads paused w
    rw [if_pos (Run.none_mem_lines_iff.2 stops)] at ends
    refine ⟨ends, ?_⟩
    rw [ends]
    exact (fresh.follow _).grouped.flushed_iff
  · intro missing
    have ends : ending.world = start.2 := run_of_missing accepted missing w
    rw [ends]
    exact ⟨fresh.grouped.flushed_iff.2 rfl, rfl⟩
  · intro deeds s
    exact ⟨(fresh.follow deeds).grouped, (fresh.follow deeds).finish⟩

end Options

/-! ### A line that is lost -/

namespace Spilt

/-- A sample with one value. -/
def sample : String :=
  "\x7b\"host\":\"h\",\"plugin\":\"p\",\"type\":\"t\",\"time\":1," ++
    "\"values\":[\x7b\"name\":\"value\",\"kind\":\"counter\",\"value\":5\x7d]\x7d\n"

/-- The line of its series. -/
def line : String := "series e:\"h\" m:\"p.t.raw\"=5 ms:1000 \n"

def config : String := "node: \x7bhost: h, metric_definitions: false\x7d\n"

/-- The input is the sample and these bytes. -/
def environment (after : List UInt8) : Environment where
  services := []
  file _ := .opened ⟨Text.bytes config, false⟩
  stdin := ⟨Text.bytes sample ++ after, false⟩
  pauses := [⟨(), 7, 7, .name []⟩].map fun c w => w.atCall c

def world : World := .fresh .ideal 0 0 (.name [])

/-- How the program ends with that input. -/
def ending (after : List UInt8) : Ending :=
  Options.run { config := "feed.yaml" } (environment after) world

theorem exists_settings (after : List UInt8) : ∃ s, (environment after).settings "feed.yaml" = .ok s := by
  have accepted : (Settings.ofFile [] (Text.bytes config)).isOk = true := by decide +kernel
  show ∃ s, Settings.ofFile [] (Text.bytes config) = .ok s
  cases read : Settings.ofFile [] (Text.bytes config) with
  | error e =>
    rw [read] at accepted
    cases accepted
  | ok s => exact ⟨s, rfl⟩

end Spilt

namespace Options

open Spilt (environment world ending)

/-- A sample, and a sample that is followed by a line that is no text. -/
theorem run_flushed_spilt :
    (∃ s, (environment []).settings "feed.yaml" = .ok s) ∧ (ending []).world.Flushed ∧
      (ending []).world.acceptedLines.head? = some Spilt.line ∧ (ending [0xff]).failure = some .reading := by
  obtain ⟨s, accepted⟩ := Spilt.exists_settings []
  obtain ⟨s', accepted'⟩ := Spilt.exists_settings [0xff]
  have whole := run_flushed { config := "feed.yaml" } (environment []) .ideal 0 0 (.name []) accepted rfl
  have broken := run_flushed { config := "feed.yaml" } (environment [0xff]) .ideal 0 0 (.name []) accepted' rfl
  refine ⟨⟨s, accepted⟩, (whole.1 _ rfl rfl (by decide +kernel)).1, by decide +kernel, ?_⟩
  exact congrArg Ending.failure (broken.2.1 _ rfl (.inr (by decide +kernel))).1

/-- The network is there at any time, but the line of the sample is never handed to it. -/
theorem accepted_and_lost_spilt :
    (∃ s, (environment [0xff]).settings "feed.yaml" = .ok s) ∧
      (ending [0xff]).world.acceptedLines = [Spilt.line] ∧ (ending [0xff]).world.handed = [] ∧
      ¬(ending [0xff]).world.Flushed := by
  obtain ⟨accepted, handed⟩ :
      (ending [0xff]).world.acceptedLines = [Spilt.line] ∧ (ending [0xff]).world.handed = [] := by decide +kernel
  refine ⟨Spilt.exists_settings _, accepted, handed, fun flushed => ?_⟩
  have all := flushed.join_eq
  rw [accepted, handed] at all
  exact absurd all (by decide)

end Options

end MetricFeed
