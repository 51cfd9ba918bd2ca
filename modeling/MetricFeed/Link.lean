import MetricFeed.Attempt
import MetricFeed.Outage

/-!
# Links

A link to a target is dialled when it is needed and is down.  Two dials lie at least a given interval apart, and a
failed write takes the link down.
-/

namespace MetricFeed

/-- Why a line or a block is not delivered. -/
inductive DeliveryError where
  /-- The last dial is too recent; in microseconds. -/
  | tryLater (wait : Nat)
  | unresolved (target : Target) (reason : String)
  | refused (target : Target) (reason : String)
  | broken (target : Target) (reason : String)
  | notLinked (target : Target)
  | lineTooLong (length capacity : Nat)
  | closed
  deriving DecidableEq

namespace DeliveryError

def message : DeliveryError → String
  | .tryLater wait => "reconnect throttled, retry in " ++ Micros.text wait
  | .unresolved t reason => "cannot resolve " ++ t.display ++ ": " ++ reason
  | .refused t reason => "connecting to " ++ t.display ++ " failed, last error: " ++ reason
  | .broken t reason => "write to " ++ t.display ++ " failed: " ++ reason
  | .notLinked t => "not connected to " ++ t.display
  | .lineTooLong length capacity =>
    "line of " ++ toString length ++ " bytes does not fit a " ++ toString capacity ++ " byte buffer"
  | .closed => "transport closed"

/-- The same line may be accepted later. -/
def isTransient : DeliveryError → Bool
  | .lineTooLong _ _ => false
  | .closed => false
  | _ => true

end DeliveryError

structure Link where
  target : Target
  /-- The shortest time between two dials, in microseconds. -/
  minInterval : Nat
  up : Bool := false
  lastDial : Option Int := none
  outage : Outage := {}
  dials : Nat := 0
  failedDials : Nat := 0
  writes : Nat := 0
  failedWrites : Nat := 0
  /-- In the writes that succeeded. -/
  bytes : Nat := 0

namespace Link

/-- How long a dial has to wait, if it has to. -/
def wait? (l : Link) (now : Int) : Option Nat :=
  match l.lastDial with
  | none => none
  | some last =>
    let elapsed := Micros.since last now
    if elapsed < l.minInterval then some (l.minInterval - elapsed) else none

/-- The error of a dial that failed. -/
def dialError? (l : Link) : DialOutcome → Option DeliveryError
  | .linked => none
  | .refused reason => some (.refused l.target reason)
  | .unresolved reason => some (.unresolved l.target reason)

/-- Dial now. -/
def dial (l : Link) (w : World) : Attempt DeliveryError Link Bool :=
  let (outcome, w') := w.dial l.target
  let l := { l with lastDial := some w.now, dials := l.dials + 1 }
  let name := l.target.display
  match l.dialError? outcome with
  | none =>
    let r := l.outage.settle name ("successfully connected to " ++ name)
      (w'.log .debug "connected" [("destination", name)])
    .done true { l with up := true, outage := r.outage } r.world
  | some e =>
    let r := l.outage.fail name e.message w'
    .fail e { l with failedDials := l.failedDials + 1, outage := r.outage } r.world

/-- Bring the link up; whether it was down. -/
def connect (l : Link) (w : World) : Attempt DeliveryError Link Bool :=
  if l.up then .done false l w
  else match l.wait? w.now with
    | some wait => .fail (.tryLater wait) l (w.record (.postponed w.now wait))
    | none => l.dial w

def write (l : Link) (block : String) (w : World) : Attempt DeliveryError Link Unit :=
  if l.up then
    match w.write block with
    | (.delivered, w) => .done () { l with writes := l.writes + 1, bytes := l.bytes + block.utf8ByteSize } w
    | (.failed reason, w) =>
      .fail (.broken l.target reason) { l with failedWrites := l.failedWrites + 1, up := false } w
  else .fail (.notLinked l.target) l w

def close (l : Link) (w : World) : Link × World :=
  if l.up then ({ l with up := false }, w.log .debug "connection closed" [("destination", l.target.display)])
  else (l, w)

end Link

end MetricFeed
