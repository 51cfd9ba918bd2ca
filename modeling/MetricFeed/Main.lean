import MetricFeed.Program.Run

/-!
# The program

Reads the arguments, the files and the clocks of the machine and runs the program on them.  Without a network of its
own it finds every target out of reach.
-/

namespace MetricFeed.Main

def usage : String :=
  "Deliver metric samples to an Axibase Time Series Database node\n\n" ++
  "Usage: atsd-writer [OPTIONS] --config <CONFIG>\n\n" ++
  "Options:\n" ++
  "  -c, --config <CONFIG>  YAML configuration file\n" ++
  "  -i, --input <INPUT>    JSON-lines input file (default: stdin)\n" ++
  "  -v, --verbose          Verbose mode (debug logs)\n" ++
  "  -h, --help             Print help\n" ++
  "  -V, --version          Print version\n"

/-! ### The machine -/

/-- The words of a text. -/
def words (cs : List Char) : List (List Char) :=
  (Text.pieces ' ' (cs.map fun c => if Text.isBlank c then ' ' else c)).filter fun w => !w.isEmpty

/-- The entries of a services file: on each line a name, a port with its protocol, and other names. -/
def servicesOf (text : String) : Services :=
  (Text.pieces '\n' text.toList).flatMap fun line =>
    match words (line.takeWhile (· ≠ '#')) with
    | name :: port :: others =>
      match Services.number? (String.ofList (port.takeWhile (· ≠ '/'))) with
      | some n => (name :: others).map fun name => (String.ofList name, n)
      | none => []
    | _ => []

/-- The time of the last start of the machine, in seconds since 1970. -/
def startOf (status : String) : Nat :=
  let found := (Text.pieces '\n' status.toList).findSome? fun line =>
    match words line with
    | ['b', 't', 'i', 'm', 'e'] :: n :: _ => some (Number.digitsValue n)
    | _ => none
  found.getD 0

def readAll (h : IO.FS.Handle) : IO Input := do
  try
    let bytes ← h.readBinToEnd
    return { bytes := bytes.toList }
  catch _ => return { bytes := [], fails := true }

def openFile (path : String) : IO FileAnswer := do
  try
    let h ← IO.FS.Handle.mk path .read
    return .opened (← readAll h)
  catch _ => return .missing

def readStdin : IO Input := do
  try
    let bytes ← (← IO.getStdin).readBinToEnd
    return { bytes := bytes.toList }
  catch _ => return { bytes := [], fails := true }

/-- The text of a file of the system; empty if there is none. -/
def systemText (path : String) : IO String := do
  match ← openFile path with
  | .opened input => return Text.lossy input.bytes
  | .missing => return ""

def surroundings : IO World := do
  let now := (← IO.monoNanosNow) / 1000
  let start := startOf (← systemText "/proc/stat")
  let name := Text.trim (← systemText "/proc/sys/kernel/hostname")
  return {
    network := .offline
    now := now
    wall := Micros.ofSeconds start + now
    machine := .name (Text.bytes name) }

/-! ### Running -/

def levelName : Level → String
  | .error => "ERROR"
  | .warn => "WARN"
  | .info => "INFO"
  | .debug => "DEBUG"

def printLog (verbose : Bool) (entry : LogEntry) : IO Unit := do
  if verbose || entry.level ≠ .debug then
    let fields := entry.fields.map fun f => " " ++ f.1 ++ "=" ++ f.2
    IO.println (levelName entry.level ++ " " ++ entry.message ++ String.join fields)

def runOptions (o : Options) : IO UInt32 := do
  let services := servicesOf (← systemText "/etc/services")
  let config ← openFile o.config
  let env : Environment := {
    services
    file := fun _ => config
    stdin := { bytes := [] }
    pauses := [fun w => w.advance 1000000] }
  let env ← match env.settings o.config, o.input with
    | .error _, _ => pure env
    | .ok _, none => do
      let stdin ← readStdin
      pure { env with stdin }
    | .ok _, some path => do
      let input ← openFile path
      pure { env with file := fun p => if p = o.config then config else input }
  let ending := o.run env (← surroundings)
  for e in ending.world.history.reverse do
    match e.log? with
    | some entry => printLog o.verbose entry
    | none => pure ()
  match ending.failure with
  | some failure => IO.eprintln ("Error: " ++ failure.message)
  | none => pure ()
  return ending.exitCode.toUInt32

end MetricFeed.Main

def main (args : List String) : IO UInt32 := do
  match MetricFeed.Request.ofArguments? args with
  | none =>
    IO.eprint MetricFeed.Main.usage
    return MetricFeed.misuseCode.toUInt32
  | some .help =>
    IO.print MetricFeed.Main.usage
    return 0
  | some .version =>
    IO.println MetricFeed.versionLine
    return 0
  | some (.run o) => MetricFeed.Main.runOptions o
