import MetricFeed.World

/-!
# Outages

A failure that persists is reported as an error once; while it lasts, further failures are counted and noted at the
lowest level.  Its end is reported once too.
-/

namespace MetricFeed

structure Outage where
  ongoing : Bool := false
  /-- Failures since the first one. -/
  repeats : Nat := 0
  deriving DecidableEq

/-- Whether it was reported, the outage and the world after a report. -/
structure Outage.Report where
  reported : Bool
  outage : Outage
  world : World

namespace Outage

/-- A failure happened. -/
def fail (o : Outage) (destination message : String) (w : World) : Report :=
  if o.ongoing then
    let repeats := o.repeats + 1
    ⟨false, { o with repeats },
      w.log .debug message [("destination", destination), ("repeats", toString repeats)]⟩
  else ⟨true, ⟨true, 0⟩, w.log .error message [("destination", destination)]⟩

/-- What failed works again. -/
def settle (o : Outage) (destination message : String) (w : World) : Report :=
  if o.ongoing then ⟨true, { o with ongoing := false }, w.log .info message [("destination", destination)]⟩
  else ⟨false, o, w⟩

theorem ongoing_fail (o : Outage) (destination message : String) (w : World) :
    (o.fail destination message w).outage.ongoing = true := by
  unfold fail
  split <;> simp_all

theorem ongoing_settle (o : Outage) (destination message : String) (w : World) :
    (o.settle destination message w).outage.ongoing = false := by
  unfold settle
  split <;> simp_all

end Outage

end MetricFeed
