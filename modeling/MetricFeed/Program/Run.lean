import MetricFeed.Program.Arguments
import MetricFeed.Record
import MetricFeed.Settings.OfYaml
import MetricFeed.Writer.Properties
import MetricFeed.Writer.Samples

/-!
# A run of the program

The program reads its settings, writes the samples of its input, one on each line, and shuts the writer down at the
end of the input.  Beside that it flushes, and sends a property about itself, once in a while.  A run that fails
stops where it is.
-/

namespace MetricFeed

/-! ### What is read -/

/-- Bytes, and whether reading on after them fails. -/
structure Input where
  bytes : List UInt8
  fails : Bool := false

inductive FileAnswer where
  | missing
  | opened (input : Input)

/-- A line of bytes as text; none if it is not UTF-8. -/
def lineText? (line : List UInt8) : Option String :=
  Text.ofBytes? line

/-- A line with its line feed was read: a carriage return before that belongs to it. -/
def dropReturn (line : List UInt8) : List UInt8 :=
  if line.getLast? = some 13 then line.dropLast else line

/-- The lines of an input, the current one in `line` with its newest byte first.  Where there is none, reading
fails. -/
def linesFrom (line : List UInt8) (fails : Bool) : List UInt8 → List (Option String)
  | [] => if fails then [none] else if line.isEmpty then [] else [lineText? line.reverse]
  | b :: bs =>
    if b = 10 then lineText? (dropReturn line.reverse) :: linesFrom [] fails bs
    else linesFrom (b :: line) fails bs

def Input.lines (i : Input) : List (Option String) :=
  linesFrom [] i.fails i.bytes

/-! ### Failures -/

inductive RunFailure where
  | config (path : String)
  | input (path : String)
  | reading
  | finalFlush
  deriving DecidableEq

def RunFailure.message : RunFailure → String
  | .config path => "Failed to load config " ++ path
  | .input path => "Failed to open input " ++ path
  | .reading => "Failed to read input"
  | .finalFlush => "Final flush failed"

/-! ### The parts of a run -/

namespace Run

def version : String := "0.1.0"

/-- What the program says about itself and the machine. -/
def agentProperty (machine : HostAnswer) : Property where
  host := "localhost"
  type := "atsd_writer"
  values := [
    ("hostname", match machine.localName with
      | .ok name => name
      | .error _ => "localhost"),
    ("os", "linux"),
    ("arch", "x86_64"),
    ("agent_version", version)]

/-- Write the sample on a line.  A line that holds none is noted and skipped, and so are errors of the writer. -/
def takeLine (x : Writer) (number : Nat) (line : String) (w : World) : Writer × World :=
  if Text.allBlank line then (x, w)
  else match Sample.ofLine line with
    | .ok s => let r := x.write s w; (r.state, r.world)
    | .error e =>
      (x, w.log .warn "Skipping malformed sample" [("line", toString number), ("error", e.message)])

/-- Write the lines, the first of which has this number. -/
def takeLines (x : Writer) (number : Nat) (w : World) : List (Option String) → Attempt RunFailure Writer Unit
  | [] => .done () x w
  | none :: _ => .fail .reading x w
  | some line :: rest =>
    let (x, w) := takeLine x number line w
    takeLines x (number + 1) w rest

/-- Flush what has waited long enough, and send the property if it is due. -/
def tick (x : Writer) (p : Property) (w : World) : Writer × World :=
  let r := x.flush (Micros.ofMillis x.node.flushInterval) w
  let r := r.state.writePropertyIfDue p r.world
  match r.result with
  | .ok _ => (r.state, r.world)
  | .error e => (r.state, r.world.log .debug "Property not sent" [("error", e.message)])

/-- Shut the writer down and report what it did. -/
def finish (x : Writer) (w : World) : Attempt RunFailure Writer Unit :=
  let r := x.shutdown w
  match r.result with
  | .error _ => .fail .finalFlush r.state r.world
  | .ok () =>
    let x := r.state
    let c := x.counts
    .done () x (r.world.log .info "Writer shutdown complete" [
      ("samples", toString c.samplesWritten), ("lines", toString c.linesSent),
      ("suppressed", toString c.valuesSuppressed),
      ("rejected", toString (c.valuesRejected + c.samplesRejected)), ("bytes", toString x.bytesSent)])

/-- Ticks, before each of which time passes. -/
def runTicks (x : Writer) (p : Property) (w : World) : List (World → World) → Writer × World
  | [] => (x, w)
  | pause :: pauses =>
    let (x, w) := tick x p (pause w)
    runTicks x p w pauses

/-- Write an input to its end, tick and shut down. -/
def deliver (x : Writer) (input : Input) (pauses : List (World → World)) (w : World) :
    Attempt RunFailure Writer Unit :=
  let p := agentProperty w.machine
  (takeLines x 1 w input.lines).andThen fun _ x w =>
  let (x, w) := runTicks x p w pauses
  finish x w

end Run

/-! ### All of it -/

/-- What the program finds around it. -/
structure Environment where
  services : Services
  file : String → FileAnswer
  stdin : Input
  /-- What becomes of the world before each tick. -/
  pauses : List (World → World)

def Environment.settings (env : Environment) (path : String) : Except SettingsError Settings :=
  match env.file path with
  | .opened ⟨bytes, false⟩ => Settings.ofFile env.services bytes
  | _ => .error .unreadable

/-- How a run ends. -/
structure Ending where
  failure : Option RunFailure
  world : World

namespace Ending

def exitCode (e : Ending) : Nat :=
  if e.failure.isSome then 1 else 0

def ofAttempt {σ α : Type} (r : Attempt RunFailure σ α) : Ending where
  failure := match r.result with
    | .ok _ => none
    | .error e => some e
  world := r.world

end Ending

/-- The exit code of arguments that are misused. -/
def misuseCode : Nat := 2

/-- Run the program. -/
def Options.run (o : Options) (env : Environment) (w : World) : Ending :=
  match env.settings o.config with
  | .error _ => ⟨some (.config o.config), w⟩
  | .ok s =>
    let w := w.log .info "Starting ATSD writer"
      [("destination", s.node.destination), ("cache_policies", toString s.policies.length)]
    let (x, w) := Writer.ofSettings s w
    match o.input with
    | none => .ofAttempt (Run.deliver x env.stdin env.pauses w)
    | some path => match env.file path with
      | .opened input => .ofAttempt (Run.deliver x input env.pauses w)
      | .missing => ⟨some (.input path), w⟩

/-- What the program prints when it is asked for its version. -/
def versionLine : String := "atsd-writer " ++ Run.version

end MetricFeed
