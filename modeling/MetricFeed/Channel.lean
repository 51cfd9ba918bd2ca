import MetricFeed.Batch
import MetricFeed.Link

/-!
# Channels

A channel gathers lines into a batch and writes the batch over a link: when it has waited for the flush interval and
another line comes, when the next line does not fit, and when it is asked to.  A batch whose write fails is lost.
-/

namespace MetricFeed

structure Channel where
  batch : Batch
  link : Link
  /-- In microseconds; 0 writes the batch before every line. -/
  flushInterval : Nat
  closed : Bool := false

namespace Channel

/-- The most bytes of a block: a datagram bounds them. -/
def blockLimit (p : Protocol) (size : Nat) : Nat :=
  match p with
  | .tcp => size
  | .udp => min size maxDatagram

/-- The link is down at first. -/
def new (target : Target) (minInterval size flushInterval : Nat) (now : Int) : Channel where
  batch := { capacity := blockLimit target.protocol size, openedAt := now }
  link := { target, minInterval }
  flushInterval

/-- Bytes that wait. -/
def pending (t : Channel) : Nat := t.batch.size

/-- Bring the link up.  A new link starts with an empty batch. -/
def connect (t : Channel) (w : World) : Attempt DeliveryError Channel Unit :=
  let r := t.link.connect w
  match r.result with
  | .error e => .fail e { t with link := r.state } r.world
  | .ok fresh =>
    .done () { t with link := r.state, batch := if fresh then t.batch.reset r.world.now else t.batch } r.world

/-- Write the batch, whatever becomes of it. -/
def writeBatch (t : Channel) (w : World) : Attempt DeliveryError Channel Unit :=
  let r := t.link.write t.batch.text w
  let fields := [("destination", t.link.target.display), ("bytes", toString t.batch.size)]
  let t := { t with link := r.state, batch := t.batch.reset r.world.now }
  match r.result with
  | .ok () => .done () t (r.world.log .debug "flushed" fields)
  | .error e =>
    .fail e t (r.world.log .debug "flush failed, buffer dropped" (fields ++ [("error", e.message)]))

/-- Write the batch if it has been open for `timeout` microseconds. -/
def flush (t : Channel) (timeout : Nat) (w : World) : Attempt DeliveryError Channel Unit :=
  if timeout ≠ 0 && t.batch.age w.now < timeout then .done () t w
  else if t.batch.isEmpty then .done () { t with batch := t.batch.touch w.now } w
  else t.writeBatch w

/-- Write the batch if a line of this length does not fit. -/
def makeRoom (t : Channel) (length : Nat) (w : World) : Attempt DeliveryError Channel Unit :=
  if t.batch.fits length then .done () t w else t.flush 0 w

def append (t : Channel) (line : String) (w : World) : Attempt DeliveryError Channel Unit :=
  match t.batch.push? line with
  | some batch => .done () { t with batch } (w.record (.accepted w.now line))
  | none => .fail (.lineTooLong line.utf8ByteSize t.batch.capacity) t w

/-- Accept a line for delivery. -/
def send (t : Channel) (line : String) (w : World) : Attempt DeliveryError Channel Unit :=
  let length := line.utf8ByteSize
  if t.closed then .fail .closed t w
  else if t.batch.capacity ≤ length then .fail (.lineTooLong length t.batch.capacity) t w
  else
    (t.connect w).andThen fun _ t w =>
    (t.flush t.flushInterval w).andThen fun _ t w =>
    (t.makeRoom length w).andThen fun _ t w =>
    t.append line w

/-- Write what waits and take the link down for good. -/
def shutdown (t : Channel) (w : World) : Attempt DeliveryError Channel Unit :=
  if t.closed then .done () t w
  else
    let r := { t with closed := true }.flush 0 w
    let (link, w) := r.state.link.close r.world
    ⟨r.result, { r.state with link }, w⟩

end Channel

end MetricFeed
