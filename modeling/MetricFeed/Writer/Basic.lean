import MetricFeed.Channel
import MetricFeed.Command
import MetricFeed.Rule
import Std.Data.HashSet

/-!
# Writers

A writer turns samples into command lines and hands them to a channel.  It remembers which values it has sent, which
metrics it has described and when it last sent a property, and it counts what becomes of everything.
-/

namespace MetricFeed

inductive WriteError where
  | sample (e : SampleError)
  | name (e : NameError)
  | series (e : SeriesError)
  | command (e : CommandError)
  | delivery (e : DeliveryError)
  | filter (e : FilterError)
  deriving DecidableEq

/-- What the caller is to make of an error. -/
inductive ErrorClass where
  /-- It lies in the data, or in a writer that is shut down: the same data fail again. -/
  | lasting
  /-- The same data may be accepted later. -/
  | transient
  /-- It lies in what the writer remembers. -/
  | inconsistent
  deriving DecidableEq

namespace WriteError

def message : WriteError → String
  | .sample e => e.message
  | .name e => e.message
  | .series e => e.message
  | .command e => e.message
  | .delivery e => e.message
  | .filter e => e.message

def errorClass : WriteError → ErrorClass
  | .delivery e => if e.isTransient then .transient else .lasting
  | .filter _ => .inconsistent
  | _ => .lasting

/-- The same data may be accepted later. -/
def isTransient (e : WriteError) : Bool :=
  e.errorClass = .transient

theorem errorClass_delivery (e : DeliveryError) :
    (delivery e).errorClass = if e.isTransient then .transient else .lasting := rfl

theorem errorClass_of_passing {e : DeliveryError} (passing : e.isTransient = true) :
    (delivery e).errorClass = .transient := by
  rw [errorClass_delivery, if_pos passing]

theorem errorClass_of_lasting {e : DeliveryError} (lasting : e.isTransient = false) :
    (delivery e).errorClass = .lasting := by
  rw [errorClass_delivery, if_neg (Bool.eq_false_iff.1 lasting)]

@[simp] theorem isTransient_delivery (e : DeliveryError) : (delivery e).isTransient = e.isTransient := by
  unfold isTransient
  rw [errorClass_delivery]
  cases e.isTransient <;> rfl

theorem isTransient_of_lasting {e : WriteError} (lasting : e.errorClass = .lasting) : e.isTransient = false := by
  unfold isTransient
  rw [lasting]
  rfl

end WriteError

/-- What became of the values of a sample. -/
structure Report where
  /-- Lines accepted by the channel. -/
  lines : Nat := 0
  suppressed : Nat := 0
  skipped : Nat := 0
  rejected : Nat := 0
  deriving DecidableEq

/-- What became of everything so far. -/
structure Counts where
  samplesWritten : Nat := 0
  samplesRejected : Nat := 0
  linesSent : Nat := 0
  valuesSuppressed : Nat := 0
  valuesSkipped : Nat := 0
  valuesRejected : Nat := 0
  transientErrors : Nat := 0
  propertiesSent : Nat := 0
  deriving DecidableEq

/-- The counts with what a report adds. -/
def Counts.add (c : Counts) (r : Report) : Counts :=
  { c with
    linesSent := c.linesSent + r.lines
    valuesSuppressed := c.valuesSuppressed + r.suppressed
    valuesSkipped := c.valuesSkipped + r.skipped
    valuesRejected := c.valuesRejected + r.rejected }

def Counts.addTransient (c : Counts) (transient : Bool) : Counts :=
  if transient then { c with transientErrors := c.transientErrors + 1 } else c

structure Writer where
  node : NodeSettings
  channel : Channel
  filter : ChangeFilter
  /-- The metrics whose description was accepted. -/
  described : Std.HashSet String := {}
  lastProperty : Option Int := none
  counts : Counts := {}

namespace Writer

/-- The name of the destination, for logs. -/
def name (x : Writer) : String := x.node.destination

def log (x : Writer) (w : World) (level : Level) (message : String) (fields : List (String × String)) : World :=
  w.log level message (("destination", x.name) :: fields)

/-- A writer that has not written anything yet. -/
def ofSettings (s : Settings) (w : World) : Writer × World :=
  let n := s.node
  let channel := Channel.new n.target (Micros.ofMillis n.minReconnectInterval) n.bufferSize
    (Micros.ofMillis n.flushInterval) w.now
  let x : Writer := { node := n, channel, filter := s.filter }
  let fields := [("protocol", n.protocol.name), ("buffer", toString channel.batch.capacity)]
  (x, x.log w .info "ATSD writer configured" fields)

/-- Bytes that wait to be written. -/
def pending (x : Writer) : Nat := x.channel.pending

/-- The number of bytes of all blocks delivered. -/
def bytesSent (x : Writer) : Nat := x.channel.link.bytes

def isLinked (x : Writer) : Bool := x.channel.link.up

/-- Count an error that was returned. -/
def countError (x : Writer) (e : WriteError) : Writer :=
  { x with counts := x.counts.addTransient e.isTransient }

/-! ### Lines -/

def sendLine (x : Writer) (line : String) (w : World) : Attempt WriteError Writer Unit :=
  ((x.channel.send line w).within fun channel => { x with channel }).mapError .delivery

/-- Hand the line of a command to the channel. -/
def sendCommand (x : Writer) (c : Command) (w : World) : Attempt WriteError Writer Unit :=
  match c.line with
  | .ok line => x.sendLine line w
  | .error e => .fail (.command e) x w

/-! ### Flushing and the end -/

/-- Write what has waited for `timeout` microseconds. -/
def flush (x : Writer) (timeout : Nat) (w : World) : Attempt WriteError Writer Unit :=
  let r := x.channel.flush timeout w
  let x := { x with channel := r.state }
  match r.result with
  | .ok () => .done () x r.world
  | .error e =>
    .fail (.delivery e) { x with counts := x.counts.addTransient true }
      (x.log r.world .warn "flush failed" [("error", e.message)])

/-- Write what waits and take the link down; nothing is written afterwards. -/
def shutdown (x : Writer) (w : World) : Attempt WriteError Writer Unit :=
  if x.channel.closed then .done () x w
  else
    let r := x.channel.shutdown w
    let x := { x with channel := r.state }
    let fields := [("lines", toString x.counts.linesSent), ("suppressed", toString x.counts.valuesSuppressed)]
    ⟨r.result.mapError .delivery, x, x.log r.world .info "ATSD writer shut down" fields⟩

/-- Give the writer up: it is shut down if it is not yet, and an error is only noted. -/
def discard (x : Writer) (w : World) : Writer × World :=
  let r := x.shutdown w
  match r.result with
  | .ok () => (r.state, r.world)
  | .error e => (r.state, x.log r.world .warn "final flush failed" [("error", e.message)])

end Writer

end MetricFeed
