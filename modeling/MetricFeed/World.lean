import MetricFeed.Entity
import MetricFeed.Settings.Basic

/-!
# The world of a writer

What lies outside a writer: two clocks, the name of the machine, and a network on which every dial and every write of
a block ends in some way.  The world keeps the history of what happened in it; what was written, accepted and logged
is read off the history.
-/

namespace MetricFeed

/-! ### The network -/

inductive DialOutcome where
  | linked
  | refused (reason : String)
  | unresolved (reason : String)
  deriving DecidableEq

inductive WriteOutcome where
  | delivered
  | failed (reason : String)
  deriving DecidableEq

/-- How dials and writes end, each by its number. -/
structure Network where
  dial : Nat → Target → DialOutcome
  write : Nat → WriteOutcome

namespace Network

/-- A network on which everything succeeds. -/
def ideal : Network where
  dial _ _ := .linked
  write _ := .delivered

/-- A network on which nothing is reached.  A host with a NUL in its name is not even looked up. -/
def offline : Network where
  dial _ t :=
    if t.host.toList.contains '\x00' then .unresolved "invalid host name" else .refused "network is unreachable"
  write _ := .failed "network is unreachable"

end Network

/-! ### What happens -/

inductive Level where
  | error
  | warn
  | info
  | debug
  deriving DecidableEq

structure LogEntry where
  level : Level
  message : String
  fields : List (String × String)
  deriving DecidableEq

inductive Event where
  /-- A dial was made; the times of events are readings of the monotonic clock. -/
  | dialed (time : Int) (outcome : DialOutcome)
  /-- A dial was due too early and put off, for so many microseconds. -/
  | postponed (time : Int) (wait : Nat)
  /-- A line was accepted for delivery. -/
  | accepted (time : Int) (line : String)
  | wrote (block : String) (outcome : WriteOutcome)
  | logged (entry : LogEntry)
  deriving DecidableEq

structure World where
  network : Network
  /-- The monotonic clock, in microseconds. -/
  now : Int := 0
  /-- The wall clock, in microseconds since 1970. -/
  wall : Int := 0
  machine : HostAnswer
  /-- How many outcomes of dials the network has given. -/
  dials : Nat := 0
  /-- How many outcomes of writes the network has given. -/
  writes : Nat := 0
  /-- Newest first. -/
  history : List Event := []

namespace World

/-! ### Acting on the world -/

def record (w : World) (e : Event) : World :=
  { w with history := e :: w.history }

/-- Both clocks move. -/
def advance (w : World) (micros : Int) : World :=
  { w with now := w.now + micros, wall := w.wall + micros }

def dial (w : World) (t : Target) : DialOutcome × World :=
  let outcome := w.network.dial w.dials t
  (outcome, { w with dials := w.dials + 1 }.record (.dialed w.now outcome))

def write (w : World) (block : String) : WriteOutcome × World :=
  let outcome := w.network.write w.writes
  (outcome, { w with writes := w.writes + 1 }.record (.wrote block outcome))

def log (w : World) (level : Level) (message : String) (fields : List (String × String)) : World :=
  w.record (.logged ⟨level, message, fields⟩)

/-- The wall clock in milliseconds; a time before 1970 counts as 1970. -/
def stamp (w : World) : Nat :=
  (w.wall / 1000).toNat

end World

/-! ### Views of a history -/

namespace Event

def log? : Event → Option LogEntry
  | logged entry => some entry
  | _ => none

/-- The block of a write that succeeded. -/
def delivered? : Event → Option String
  | wrote block .delivered => some block
  | _ => none

def accepted? : Event → Option String
  | accepted _ line => some line
  | _ => none

def isDial : Event → Bool
  | dialed _ _ => true
  | _ => false

end Event

namespace World

/-- The lines accepted, oldest first. -/
def acceptedLines (w : World) : List String :=
  (w.history.filterMap Event.accepted?).reverse

/-- The blocks delivered, oldest first. -/
def deliveredBlocks (w : World) : List String :=
  (w.history.filterMap Event.delivered?).reverse

end World

end MetricFeed
