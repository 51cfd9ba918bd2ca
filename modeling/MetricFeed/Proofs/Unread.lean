import MetricFeed.Proofs.WriterMoves

/-!
# Nobody reads the history

What happens in an operation does not depend on what happened before it, but for what the state and the counters of the
network hold: with older events put at the start of the history, every operation does the same, and the older events are
still there afterwards (`Writer.act_over`).  So log entries can be put in anywhere (`World.Akin.act`).
-/

namespace MetricFeed

/-! ### Older events -/

/-- The world with older events at the start of its history. -/
def World.over (w : World) (past : List Event) : World :=
  { w with history := w.history ++ past }

/-- The attempt, made in a world with older events. -/
def Attempt.over {ε σ α : Type} (r : Attempt ε σ α) (past : List Event) : Attempt ε σ α :=
  ⟨r.result, r.state, r.world.over past⟩

variable {ε ε' σ τ α β : Type} (past : List Event)

namespace World

variable (w : World)

@[simp] theorem now_over : (w.over past).now = w.now := rfl

@[simp] theorem machine_over : (w.over past).machine = w.machine := rfl

@[simp] theorem stamp_over : (w.over past).stamp = w.stamp := rfl

@[simp] theorem log_over (level : Level) (message : String) (fields : List (String × String)) :
    (w.over past).log level message fields = (w.log level message fields).over past := rfl

theorem traffic_over : (w.over past).traffic = w.traffic ++ past.filter Event.isTraffic :=
  List.filter_append ..

@[simp] theorem dial_over (t : Target) : (w.over past).dial t = ((w.dial t).1, (w.dial t).2.over past) := rfl

@[simp] theorem write_over (block : String) :
    (w.over past).write block = ((w.write block).1, (w.write block).2.over past) := rfl

end World

namespace Attempt

@[simp] theorem fail_over (e : ε) (s : σ) (w : World) :
    (fail e s (w.over past) : Attempt ε σ α) = (fail e s w).over past := rfl

theorem andThen_over {r : Attempt ε σ α} {next : α → σ → World → Attempt ε σ β}
    (hn : ∀ a s w, next a s (w.over past) = (next a s w).over past) :
    (r.over past).andThen next = (r.andThen next).over past := by
  obtain ⟨result, s, w⟩ := r
  cases result with
  | ok a => exact hn a s w
  | error e => rfl

@[simp] theorem within_over (r : Attempt ε σ α) (put : σ → τ) :
    (r.over past).within put = (r.within put).over past := rfl

end Attempt

/-! ### Links -/

namespace Outage

theorem settle_over (o : Outage) (destination message : String) (w : World) :
    o.settle destination message (w.over past) =
      { o.settle destination message w with world := (o.settle destination message w).world.over past } := by
  unfold settle
  split <;> rfl

theorem fail_over (o : Outage) (destination message : String) (w : World) :
    o.fail destination message (w.over past) =
      { o.fail destination message w with world := (o.fail destination message w).world.over past } := by
  unfold fail
  split <;> rfl

end Outage

namespace Link

variable (l : Link) (w : World)

theorem dial_over : l.dial (w.over past) = (l.dial w).over past := by
  unfold dial
  rw [World.dial_over]
  generalize w.dial l.target = dialled
  obtain ⟨outcome, w'⟩ := dialled
  cases outcome with
  | linked =>
    dsimp only [dialError?]
    rw [World.log_over, Outage.settle_over]
    rfl
  | refused reason =>
    dsimp only [dialError?]
    rw [Outage.fail_over]
    rfl
  | unresolved reason =>
    dsimp only [dialError?]
    rw [Outage.fail_over]
    rfl

theorem connect_over : l.connect (w.over past) = (l.connect w).over past := by
  unfold connect
  rw [World.now_over]
  split
  · rfl
  · split
    · rfl
    · exact dial_over past l w

theorem write_over (block : String) : l.write block (w.over past) = (l.write block w).over past := by
  unfold write
  rw [World.write_over]
  split
  · generalize w.write block = written
    obtain ⟨outcome, w'⟩ := written
    cases outcome <;> rfl
  · rfl

theorem close_over : l.close (w.over past) = ((l.close w).1, (l.close w).2.over past) := by
  unfold close
  split <;> rfl

end Link

/-! ### Channels -/

namespace Channel

variable (t : Channel) (w : World)

theorem connect_over : t.connect (w.over past) = (t.connect w).over past := by
  unfold connect
  rw [Link.connect_over]
  generalize t.link.connect w = r
  obtain ⟨result, l, w'⟩ := r
  cases result <;> rfl

theorem writeBatch_over : t.writeBatch (w.over past) = (t.writeBatch w).over past := by
  unfold writeBatch
  rw [Link.write_over]
  generalize t.link.write t.batch.text w = r
  obtain ⟨result, l, w'⟩ := r
  cases result <;> rfl

theorem flush_over (timeout : Nat) : t.flush timeout (w.over past) = (t.flush timeout w).over past := by
  unfold flush
  rw [World.now_over]
  split
  · rfl
  · split
    · rfl
    · exact writeBatch_over past t w

theorem makeRoom_over (length : Nat) : t.makeRoom length (w.over past) = (t.makeRoom length w).over past := by
  unfold makeRoom
  split
  · rfl
  · exact flush_over past t w 0

theorem append_over (line : String) : t.append line (w.over past) = (t.append line w).over past := by
  unfold append
  split <;> rfl

theorem send_over (line : String) : t.send line (w.over past) = (t.send line w).over past := by
  unfold send
  dsimp only
  split
  · rfl
  · split
    · rfl
    · rw [connect_over]
      refine Attempt.andThen_over past fun _ t w => ?_
      rw [flush_over]
      refine Attempt.andThen_over past fun _ t w => ?_
      rw [makeRoom_over]
      exact Attempt.andThen_over past fun _ t w => append_over past t w line

theorem shutdown_over : t.shutdown (w.over past) = (t.shutdown w).over past := by
  unfold shutdown
  split
  · rfl
  · rw [flush_over]
    generalize flush { t with closed := true } 0 w = r
    obtain ⟨result, t', w'⟩ := r
    dsimp only [Attempt.over]
    rw [Link.close_over]

end Channel

/-! ### Writers -/

namespace Writer

variable (x : Writer) (w : World)

theorem sendLine_over (line : String) : x.sendLine line (w.over past) = (x.sendLine line w).over past := by
  unfold sendLine
  rw [Channel.send_over]
  rfl

theorem sendCommand_over (c : Command) : x.sendCommand c (w.over past) = (x.sendCommand c w).over past := by
  unfold sendCommand
  split
  · exact sendLine_over past x w _
  · rfl

end Writer

namespace Work

theorem send_over (k : Work) (c : Command) (w : World) : k.send c (w.over past) = (k.send c w).over past := by
  unfold send
  rw [Writer.sendCommand_over, Attempt.within_over]
  exact Attempt.andThen_over past fun _ k w => rfl

theorem describe_over (k : Work) (s : Series) (w : World) :
    k.describe s (w.over past) = (k.describe s w).over past := by
  unfold describe
  split
  · rw [send_over]
    exact Attempt.andThen_over past fun _ k w => rfl
  · rfl

theorem sendSeries_over (k : Work) (s : Series) (w : World) :
    k.sendSeries s (w.over past) = (k.sendSeries s w).over past := by
  unfold sendSeries
  rw [describe_over]
  exact Attempt.andThen_over past fun _ k w => send_over past k s.command w

theorem sendAll_over (all : List Series) (k : Work) (w : World) :
    k.sendAll all (w.over past) = (k.sendAll all w).over past := by
  induction all generalizing k w with
  | nil => rfl
  | cons s rest ih =>
    unfold sendAll
    rw [sendSeries_over]
    exact Attempt.andThen_over past fun _ k w => ih k w

theorem writeObservation_over (k : Work) (o : Observation) (w : World) :
    k.writeObservation o (w.over past) = (k.writeObservation o w).over past := by
  unfold writeObservation
  split
  · exact sendAll_over past _ k w
  · rfl

theorem settle_over (s : Sample) (ds : DataSource) (r : Attempt WriteError Work Unit) :
    settle s ds (r.over past) = (settle s ds r).over past := by
  obtain ⟨result, k, w⟩ := r
  unfold settle
  cases result with
  | ok _ => rfl
  | error e =>
    dsimp only [Attempt.over]
    split <;> rfl

theorem writeValue_over (k : Work) (s : Sample) (entity : String) (index : Nat) (ds : DataSource) (w : World) :
    k.writeValue s entity index ds (w.over past) = (k.writeValue s entity index ds w).over past := by
  unfold writeValue
  dsimp only
  split
  · rfl
  · split
    · rfl
    · rfl
    · rw [writeObservation_over, settle_over]

theorem writeValues_over (s : Sample) (entity : String) (values : List DataSource) (k : Work) (index : Nat)
    (w : World) :
    k.writeValues s entity index values (w.over past) = (k.writeValues s entity index values w).over past := by
  induction values generalizing k index w with
  | nil => rfl
  | cons ds rest ih =>
    unfold writeValues
    rw [writeValue_over]
    exact Attempt.andThen_over past fun _ k w => ih k (index + 1) w

theorem writeSample_over (k : Work) (s : Sample) (entity : String) (w : World) :
    k.writeSample s entity (w.over past) = (k.writeSample s entity w).over past := by
  unfold writeSample
  split
  · rfl
  · exact writeValues_over past s entity s.values k 0 w

end Work

namespace Writer

variable (x : Writer) (w : World)

theorem logFailure_over (s : Sample) (e : WriteError) :
    x.logFailure s e (w.over past) = (x.logFailure s e w).over past := by
  unfold logFailure
  dsimp only
  split <;> rfl

theorem write_over (s : Sample) : x.write s (w.over past) = (x.write s w).over past := by
  unfold write
  have same : x.prepare s (w.over past) = x.prepare s w := rfl
  rw [same]
  split
  · rfl
  · rw [Work.writeSample_over]
    generalize Work.writeSample { writer := x } s _ w = r
    obtain ⟨result, k, w'⟩ := r
    cases result with
    | ok _ => rfl
    | error e =>
      dsimp only [Attempt.over]
      rw [logFailure_over]
      rfl

theorem sendProperty_over (entity line : String) :
    x.sendProperty entity line (w.over past) = (x.sendProperty entity line w).over past := by
  unfold sendProperty
  rw [sendLine_over]
  generalize x.sendLine line w = r
  obtain ⟨result, x', w'⟩ := r
  cases result <;> rfl

theorem writeProperty_over (p : Property) : x.writeProperty p (w.over past) = (x.writeProperty p w).over past := by
  unfold writeProperty
  rw [World.machine_over, World.stamp_over]
  split
  · rfl
  · split
    · rfl
    · exact sendProperty_over past x w _ _

theorem writePropertyIfDue_over (p : Property) :
    x.writePropertyIfDue p (w.over past) = (x.writePropertyIfDue p w).over past := by
  unfold writePropertyIfDue
  rw [World.now_over]
  split
  · rw [writeProperty_over]
    exact Attempt.andThen_over past fun _ x w => rfl
  · rfl

theorem flush_over (timeout : Nat) : x.flush timeout (w.over past) = (x.flush timeout w).over past := by
  unfold flush
  rw [Channel.flush_over]
  generalize x.channel.flush timeout w = r
  obtain ⟨result, t, w'⟩ := r
  cases result <;> rfl

theorem shutdown_over : x.shutdown (w.over past) = (x.shutdown w).over past := by
  unfold shutdown
  split
  · rfl
  · rw [Channel.shutdown_over]
    rfl

theorem act_over (op : Op) : act op x (w.over past) = (act op x w).over past := by
  unfold act
  cases op with
  | write s =>
    dsimp only
    rw [write_over]
    exact Attempt.andThen_over past fun _ x w => rfl
  | flush timeout =>
    dsimp only
    rw [flush_over]
    exact Attempt.andThen_over past fun _ x w => rfl
  | property p =>
    dsimp only
    rw [writeProperty_over]
    exact Attempt.andThen_over past fun _ x w => rfl
  | propertyIfDue p =>
    dsimp only
    rw [writePropertyIfDue_over]
    exact Attempt.andThen_over past fun _ x w => rfl
  | shutdown =>
    dsimp only
    rw [shutdown_over]
    exact Attempt.andThen_over past fun _ x w => rfl

end Writer

/-! ### Worlds that differ in what was logged -/

namespace World

/-- The world without its history. -/
def bare (w : World) : World :=
  { w with history := [] }

/-- The worlds differ in their log entries at most. -/
structure Akin (w w' : World) : Prop where
  bare : w.bare = w'.bare
  traffic : w.traffic = w'.traffic

namespace Akin

variable {w w' w₁ : World}

theorem refl (w : World) : w.Akin w :=
  ⟨rfl, rfl⟩

theorem log (h : w.Akin w') (level : Level) (message : String) (fields : List (String × String)) :
    (w.log level message fields).Akin w' :=
  ⟨h.bare, h.traffic⟩

theorem atCall (h : w.Akin w') {ο : Type} (c : Call ο) : (w.atCall c).Akin (w'.atCall c) where
  bare := congrArg (fun w : World => w.atCall c) h.bare
  traffic := h.traffic

theorem deliveredBlocks (h : w.Akin w') : w.deliveredBlocks = w'.deliveredBlocks := by
  have logs : ∀ entry, Event.delivered? (.logged entry) = none := fun _ => rfl
  unfold World.deliveredBlocks
  rw [← filterMap_traffic logs, ← filterMap_traffic logs, h.traffic]

/-- An operation does the same in both worlds. -/
theorem act (h : w.Akin w') (op : Writer.Op) (x : Writer) :
    (Writer.act op x w).result = (Writer.act op x w').result ∧
      (Writer.act op x w).state = (Writer.act op x w').state ∧
        (Writer.act op x w).world.Akin (Writer.act op x w').world := by
  have whole (w : World) : Writer.act op x w = (Writer.act op x w.bare).over w.history :=
    Writer.act_over w.history x w.bare op
  rw [whole w, whole w', h.bare]
  refine ⟨rfl, rfl, rfl, ?_⟩
  show ((Writer.act op x w'.bare).world.over w.history).traffic =
    ((Writer.act op x w'.bare).world.over w'.history).traffic
  rw [traffic_over, traffic_over]
  exact congrArg _ h.traffic

end Akin

end World

end MetricFeed
