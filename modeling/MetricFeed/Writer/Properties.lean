import MetricFeed.Writer.Basic

/-!
# Sending properties

A property is sent at once, or if the property interval has passed since the last one that was accepted.  One
without a time is stamped with the time of sending.
-/

namespace MetricFeed

/-- The property with a time. -/
def Property.stamped (p : Property) (now : Nat) : Property :=
  if p.time = 0 then { p with time := now } else p

namespace Writer

/-- The property was accepted. -/
def countProperty (x : Writer) (now : Int) : Writer :=
  { x with
    lastProperty := some now
    counts := { x.counts with
      propertiesSent := x.counts.propertiesSent + 1
      linesSent := x.counts.linesSent + 1 } }

/-- Hand the line of a property to the channel. -/
def sendProperty (x : Writer) (entity line : String) (w : World) : Attempt WriteError Writer Unit :=
  let r := x.sendLine line w
  let x := r.state
  match r.result with
  | .ok () =>
    .done () (x.countProperty r.world.now) (x.log r.world .debug "property sent" [("entity", entity)])
  | .error e => .fail e (x.countError e) (x.log r.world .debug "property dropped" [("error", e.message)])

/-- Send a property now. -/
def writeProperty (x : Writer) (p : Property) (w : World) : Attempt WriteError Writer Unit :=
  match Entity.resolve w.machine x.node.entity p.host x.node.shortHostname with
  | .error e => .fail (.name e) x w
  | .ok entity => match ((p.stamped w.stamp).command entity).line with
    | .error e => .fail (.command e) x w
    | .ok line => x.sendProperty entity line w

/-- The property interval has passed, or no property was sent yet. -/
def propertyDue (x : Writer) (now : Int) : Bool :=
  match x.lastProperty with
  | none => true
  | some last => Micros.ofSeconds x.node.propertyInterval ≤ Micros.since last now

/-- Send a property if one is due; whether it was. -/
def writePropertyIfDue (x : Writer) (p : Property) (w : World) : Attempt WriteError Writer Bool :=
  if x.propertyDue w.now then
    (x.writeProperty p w).andThen fun _ x w =>
    .done true x w
  else .done false x w

end Writer

end MetricFeed
