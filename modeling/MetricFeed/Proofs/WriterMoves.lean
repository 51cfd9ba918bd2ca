import MetricFeed.Proofs.ChannelMoves
import MetricFeed.Proofs.Course
import MetricFeed.Writer.Properties
import MetricFeed.Writer.Samples

/-!
# What a writer does to its channel

A writer hands its channel lines, one after the other, and stops after the first error that may pass (`Channel.Fed`).
Every operation of a writer that sends anything is such a sequence, and fails with an error that may pass exactly when
the sequence ends in one (`Writer.relays_write`, `Writer.relays_writeProperty`).  What one `send` keeps up is thereby
kept up by the writer.
-/

namespace MetricFeed

/-- The result is an error after which the same line may be accepted later. -/
def DeliveryError.isTransientIn {α : Type} : Except DeliveryError α → Bool
  | .ok _ => false
  | .error e => e.isTransient

/-- The result is an error after which the same data may be accepted later. -/
def WriteError.isTransientIn {α : Type} : Except WriteError α → Bool
  | .ok _ => false
  | .error e => e.isTransient

theorem WriteError.isTransientIn_mapError {α : Type} (r : Except DeliveryError α) :
    WriteError.isTransientIn (r.mapError .delivery) = DeliveryError.isTransientIn r := by
  cases r with
  | ok a => rfl
  | error e => exact isTransient_delivery e

/-! ### Sequences of lines -/

namespace Channel

/-- The lines that a channel was handed, each with its result, log entries in between; none follows an error that may
pass. -/
inductive Fed (t : Channel) (w : World) : List (String × Except DeliveryError Unit) → Channel → World → Prop where
  | start : Fed t w [] t w
  | note {fed : List (String × Except DeliveryError Unit)} {t' : Channel} {w' w'' : World} (before : Fed t w fed t' w')
    (notes : w'.Leads [] w'') : Fed t w fed t' w''
  | send {fed : List (String × Except DeliveryError Unit)} {t' : Channel} {w' : World} (before : Fed t w fed t' w')
    (calm : ∀ p ∈ fed, DeliveryError.isTransientIn p.2 = false) (line : String) :
    Fed t w (fed ++ [(line, (t'.send line w').result)]) (t'.send line w').state (t'.send line w').world

/-- One of the lines met an error that may pass. -/
def isStopped (fed : List (String × Except DeliveryError Unit)) : Bool :=
  fed.any fun p => DeliveryError.isTransientIn p.2

theorem isStopped_eq_false {fed : List (String × Except DeliveryError Unit)} :
    isStopped fed = false ↔ ∀ p ∈ fed, DeliveryError.isTransientIn p.2 = false := by
  simp [isStopped]

theorem isStopped_singleton (line : String) (r : Except DeliveryError Unit) :
    isStopped [(line, r)] = DeliveryError.isTransientIn r :=
  Bool.or_false _

theorem isStopped_append (a b : List (String × Except DeliveryError Unit)) :
    isStopped (a ++ b) = (isStopped a || isStopped b) :=
  List.any_append

theorem Fed.trans {t t₁ t₂ : Channel} {w w₁ w₂ : World} {a b : List (String × Except DeliveryError Unit)}
    (h₁ : Fed t w a t₁ w₁) (calm : isStopped a = false) (h₂ : Fed t₁ w₁ b t₂ w₂) : Fed t w (a ++ b) t₂ w₂ := by
  -- on the second sequence: its lines are handed over where the first one ended, which was not stopped
  induction h₂ with
  | start =>
    rw [List.append_nil]
    exact h₁
  | note _ notes ih => exact ih.note notes
  | send _ calm' line ih =>
    rw [← List.append_assoc]
    refine ih.send (fun p hp => ?_) line
    rcases List.mem_append.1 hp with hp | hp
    · exact isStopped_eq_false.1 calm p hp
    · exact calm' p hp

end Channel

/-! ### Attempts that hand lines on -/

section

variable {σ τ α β : Type}

/-- All that an attempt did to the channel, which `chan` finds in the state, was to hand it lines; the attempt fails
with an error that may pass exactly when one of the lines met one. -/
def Relays (chan : σ → Channel) (t : Channel) (w : World) (r : Attempt WriteError σ α) : Prop :=
  ∃ fed, t.Fed w fed (chan r.state) r.world ∧ WriteError.isTransientIn r.result = Channel.isStopped fed

namespace Relays

variable {chan : σ → Channel} {t : Channel} {w : World}

theorem done (chan : σ → Channel) (a : α) (s : σ) (w : World) : Relays chan (chan s) w (.done a s w) :=
  ⟨[], .start, rfl⟩

theorem fail (chan : σ → Channel) {e : WriteError} (he : e.isTransient = false) (s : σ) (w : World) :
    Relays chan (chan s) w (.fail e s w : Attempt WriteError σ α) :=
  ⟨[], .start, he⟩

/-- Log entries after the attempt, and another result of the same kind, in another state with the same channel. -/
theorem recast {chan' : τ → Channel} {r : Attempt WriteError σ α} {r' : Attempt WriteError τ β}
    (h : Relays chan t w r) (state : chan' r'.state = chan r.state) (notes : r.world.Leads [] r'.world)
    (result : WriteError.isTransientIn r'.result = WriteError.isTransientIn r.result) : Relays chan' t w r' := by
  obtain ⟨fed, hf, ht⟩ := h
  rw [Relays, state, result]
  exact ⟨fed, hf.note notes, ht⟩

theorem andThen {r : Attempt WriteError σ α} {next : α → σ → World → Attempt WriteError σ β} (hr : Relays chan t w r)
    (hn : ∀ a s w, Relays chan (chan s) w (next a s w)) : Relays chan t w (r.andThen next) := by
  obtain ⟨fed, hf, ht⟩ := hr
  unfold Attempt.andThen
  cases hres : r.result with
  | error e =>
    rw [hres] at ht
    exact ⟨fed, hf, ht⟩
  | ok a =>
    rw [hres] at ht
    obtain ⟨fed', hf', ht'⟩ := hn a r.state r.world
    refine ⟨fed ++ fed', hf.trans ht.symm hf', ?_⟩
    rw [Channel.isStopped_append, ← ht, ← ht']
    rfl

end Relays

end

/-! ### Lines and commands -/

theorem Writer.relays_sendLine (x : Writer) (line : String) (w : World) :
    Relays Writer.channel x.channel w (x.sendLine line w) := by
  refine ⟨[(line, (x.channel.send line w).result)], .send .start (by simp) line, ?_⟩
  rw [Channel.isStopped_singleton]
  exact WriteError.isTransientIn_mapError _

theorem Writer.relays_sendCommand (x : Writer) (c : Command) (w : World) :
    Relays Writer.channel x.channel w (x.sendCommand c w) := by
  unfold sendCommand
  split
  · exact x.relays_sendLine _ w
  · exact .fail Writer.channel rfl x w

/-! ### Samples -/

namespace Work

/-- The channel of the writer. -/
def channel (k : Work) : Channel := k.writer.channel

theorem relays_send (k : Work) (c : Command) (w : World) : Relays channel k.channel w (k.send c w) := by
  unfold send
  have h : Relays channel k.channel w ((k.writer.sendCommand c w).within fun writer => { k with writer }) :=
    (k.writer.relays_sendCommand c w).recast rfl (.refl _) rfl
  exact h.andThen fun _ k w => .done channel () k.countLine w

theorem relays_describe (k : Work) (s : Series) (w : World) : Relays channel k.channel w (k.describe s w) := by
  unfold describe
  split
  · exact (k.relays_send s.definition w).andThen fun _ k w => .done channel () (k.markDescribed s.metric) w
  · exact .done channel () k w

theorem relays_sendSeries (k : Work) (s : Series) (w : World) : Relays channel k.channel w (k.sendSeries s w) :=
  (k.relays_describe s w).andThen fun _ k w => k.relays_send s.command w

theorem relays_sendAll (all : List Series) (k : Work) (w : World) : Relays channel k.channel w (k.sendAll all w) := by
  induction all generalizing k w with
  | nil => exact .done channel () k w
  | cons s rest ih => exact (k.relays_sendSeries s w).andThen fun _ k w => ih k w

theorem relays_writeObservation (k : Work) (o : Observation) (w : World) :
    Relays channel k.channel w (k.writeObservation o w) := by
  unfold writeObservation
  split
  · exact relays_sendAll _ k w
  · exact .fail channel rfl k w

theorem relays_settle {t : Channel} {w : World} {r : Attempt WriteError Work Unit} (h : Relays channel t w r)
    (s : Sample) (ds : DataSource) : Relays channel t w (settle s ds r) := by
  unfold settle
  split
  · exact h
  · rename_i e he
    split
    · rename_i lasting
      have calm := WriteError.isTransient_of_lasting lasting
      exact h.recast rfl (World.leads_log _ _ _ _) (by simp [Attempt.done, he, WriteError.isTransientIn, calm])
    · exact h

theorem relays_writeValue (k : Work) (s : Sample) (entity : String) (index : Nat) (ds : DataSource) (w : World) :
    Relays channel k.channel w (k.writeValue s entity index ds w) := by
  unfold writeValue
  dsimp only
  split
  · exact .done channel () _ w
  · split
    · exact .fail channel rfl _ w
    · exact .done channel () _ w
    · refine relays_settle (t := k.channel) ?_ s ds
      let filter := (k.writer.filter.check s.key (ds.value.text (s.rate? index)) s.time).2
      exact relays_writeObservation { k with writer := { k.writer with filter } } _ w

theorem relays_writeValues (s : Sample) (entity : String) (values : List DataSource) (k : Work) (index : Nat)
    (w : World) : Relays channel k.channel w (k.writeValues s entity index values w) := by
  induction values generalizing k index w with
  | nil => exact .done channel () k w
  | cons ds rest ih => exact (k.relays_writeValue s entity index ds w).andThen fun _ k w => ih k (index + 1) w

theorem relays_writeSample (k : Work) (s : Sample) (entity : String) (w : World) :
    Relays channel k.channel w (k.writeSample s entity w) := by
  unfold writeSample
  split
  · exact .fail channel rfl k w
  · exact relays_writeValues s entity s.values k 0 w

end Work

namespace Writer

/-- A sample is turned down for what it holds or for the name of its entity. -/
theorem error_of_prepare {x : Writer} {s : Sample} {w : World} {e : WriteError} (h : x.prepare s w = .error e) :
    (∃ fault, e = .sample fault) ∨ ∃ fault, e = .name fault := by
  unfold prepare at h
  split at h
  · rename_i fault _
    cases h
    exact .inl ⟨fault, rfl⟩
  · generalize Entity.resolve w.machine (x.node.entity.or s.entityHint) s.host x.node.shortHostname = resolved at h
    cases resolved with
    | error fault =>
      cases h
      exact .inr ⟨fault, rfl⟩
    | ok entity => cases h

/-- What is wrong with a sample does not pass. -/
theorem isTransient_of_prepare {x : Writer} {s : Sample} {w : World} {e : WriteError}
    (h : x.prepare s w = .error e) : e.isTransient = false := by
  rcases error_of_prepare h with ⟨fault, rfl⟩ | ⟨fault, rfl⟩
  · rfl
  · rfl

theorem leads_logFailure (x : Writer) (s : Sample) (e : WriteError) (w : World) :
    w.Leads [] (x.logFailure s e w) := by
  unfold logFailure Writer.log
  dsimp only
  split
  · exact w.leads_log _ _ _
  · exact w.leads_log _ _ _
  · exact w.leads_log _ _ _
  · exact w.leads_log _ _ _

theorem relays_write (x : Writer) (s : Sample) (w : World) : Relays Writer.channel x.channel w (x.write s w) := by
  unfold write
  split
  · rename_i e he
    have h : Relays Writer.channel x.channel w (.fail e x w : Attempt WriteError Writer Report) :=
      .fail Writer.channel (isTransient_of_prepare he) x w
    exact h.recast rfl (w.leads_log _ _ _) rfl
  · rename_i entity he
    have h := Work.relays_writeSample { writer := x } s entity w
    dsimp only
    split
    · rename_i hr
      exact h.recast rfl (.refl _) (by rw [hr]; rfl)
    · rename_i e hr
      exact h.recast rfl (leads_logFailure _ s e _) (by rw [hr]; rfl)

theorem relays_sendProperty (x : Writer) (entity line : String) (w : World) :
    Relays Writer.channel x.channel w (x.sendProperty entity line w) := by
  have h := x.relays_sendLine line w
  unfold sendProperty
  dsimp only
  split
  · rename_i hr
    exact h.recast rfl (World.leads_log _ _ _ _) (by rw [hr]; rfl)
  · rename_i e hr
    exact h.recast rfl (World.leads_log _ _ _ _) (by rw [hr]; rfl)

theorem relays_writeProperty (x : Writer) (p : Property) (w : World) :
    Relays Writer.channel x.channel w (x.writeProperty p w) := by
  unfold writeProperty
  split
  · exact .fail Writer.channel rfl x w
  · split
    · exact .fail Writer.channel rfl x w
    · exact x.relays_sendProperty _ _ w

theorem relays_writePropertyIfDue (x : Writer) (p : Property) (w : World) :
    Relays Writer.channel x.channel w (x.writePropertyIfDue p w) := by
  unfold writePropertyIfDue
  split
  · exact (x.relays_writeProperty p w).andThen fun _ x w => .done Writer.channel true x w
  · exact .done Writer.channel false x w

/-! ### Flushing and the end -/

/-- What an operation of the channel gave is given by one of the writer, with log entries added. -/
structure Mirrors {α : Type} (c : Attempt DeliveryError Channel Unit) (r : Attempt WriteError Writer α) : Prop where
  channel : r.state.channel = c.state
  notes : c.world.Leads [] r.world
  result : WriteError.isTransientIn r.result = DeliveryError.isTransientIn c.result

theorem mirrors_flush (x : Writer) (timeout : Nat) (w : World) :
    Mirrors (x.channel.flush timeout w) (x.flush timeout w) := by
  unfold flush
  dsimp only
  split
  · rename_i hr
    exact ⟨rfl, .refl _, by rw [hr]; rfl⟩
  · rename_i e hr
    refine ⟨rfl, World.leads_log _ _ _ _, ?_⟩
    rw [hr]
    exact WriteError.isTransient_delivery e

theorem mirrors_shutdown (x : Writer) (w : World) : Mirrors (x.channel.shutdown w) (x.shutdown w) := by
  unfold shutdown
  split
  · rename_i isClosed
    have eq : x.channel.shutdown w = .done () x.channel w := if_pos isClosed
    rw [eq]
    exact ⟨rfl, .refl w, rfl⟩
  · refine ⟨rfl, World.leads_log _ _ _ _, ?_⟩
    exact WriteError.isTransientIn_mapError _

/-! ### Operations -/

inductive Op where
  | write (s : Sample)
  | flush (timeout : Nat)
  | property (p : Property)
  | propertyIfDue (p : Property)
  | shutdown

/-- What an operation returns when it succeeds. -/
inductive Answer where
  | report (r : Report)
  | finished
  | sent (due : Bool)
  deriving DecidableEq

def act (op : Op) (x : Writer) (w : World) : Attempt WriteError Writer Answer :=
  match op with
  | .write s => (x.write s w).andThen fun r x w => .done (.report r) x w
  | .flush timeout => (x.flush timeout w).andThen fun _ x w => .done .finished x w
  | .property p => (x.writeProperty p w).andThen fun _ x w => .done .finished x w
  | .propertyIfDue p => (x.writePropertyIfDue p w).andThen fun due x w => .done (.sent due) x w
  | .shutdown => (x.shutdown w).andThen fun _ x w => .done .finished x w

theorem act_write_eq (x : Writer) (s : Sample) (w : World) : act (.write s) x w =
    ⟨(x.write s w).result.map .report, (x.write s w).state, (x.write s w).world⟩ :=
  Attempt.andThen_answer _ Answer.report

theorem act_flush_eq (x : Writer) (timeout : Nat) (w : World) : act (.flush timeout) x w =
    ⟨(x.flush timeout w).result.map fun _ => .finished, (x.flush timeout w).state, (x.flush timeout w).world⟩ :=
  Attempt.andThen_answer _ fun _ => Answer.finished

theorem act_property_eq (x : Writer) (p : Property) (w : World) : act (.property p) x w =
    ⟨(x.writeProperty p w).result.map fun _ => .finished, (x.writeProperty p w).state, (x.writeProperty p w).world⟩ :=
  Attempt.andThen_answer _ fun _ => Answer.finished

theorem act_propertyIfDue_eq (x : Writer) (p : Property) (w : World) : act (.propertyIfDue p) x w =
    ⟨(x.writePropertyIfDue p w).result.map .sent, (x.writePropertyIfDue p w).state,
      (x.writePropertyIfDue p w).world⟩ :=
  Attempt.andThen_answer _ Answer.sent

theorem act_shutdown_eq (x : Writer) (w : World) : act .shutdown x w =
    ⟨(x.shutdown w).result.map fun _ => .finished, (x.shutdown w).state, (x.shutdown w).world⟩ :=
  Attempt.andThen_answer _ fun _ => Answer.finished

theorem writePropertyIfDue_of_due {x : Writer} {w : World} (due : x.propertyDue w.now = true) (p : Property) :
    x.writePropertyIfDue p w =
      ⟨(x.writeProperty p w).result.map fun _ => true, (x.writeProperty p w).state, (x.writeProperty p w).world⟩ := by
  unfold writePropertyIfDue
  rw [if_pos due]
  exact Attempt.andThen_answer _ fun _ => true

theorem writePropertyIfDue_of_early {x : Writer} {w : World} (early : x.propertyDue w.now = false) (p : Property) :
    x.writePropertyIfDue p w = .done false x w := by
  unfold writePropertyIfDue
  rw [if_neg (by simp [early])]

/-- What the calls leave of a writer that was made in a world in which nothing had happened. -/
def course (s : Settings) (network : Network) (now wall : Int) (machine : HostAnswer) (calls : List (Call Op)) :
    Course WriteError Writer Op Answer :=
  let start := Writer.ofSettings s (.fresh network now wall machine)
  Course.run act start.1 start.2 calls

/-- Every operation sends lines, flushes the channel or shuts it down. -/
inductive Acts (x : Writer) (w : World) (r : Attempt WriteError Writer Answer) : Prop where
  | sends (relays : Relays Writer.channel x.channel w r)
  | flushes (timeout : Nat) (mirrors : Mirrors (x.channel.flush timeout w) r)
  | ends (mirrors : Mirrors (x.channel.shutdown w) r)

theorem Mirrors.andThen_done {α : Type} {c : Attempt DeliveryError Channel Unit} {r : Attempt WriteError Writer α}
    (h : Mirrors c r) (answer : Answer) : Mirrors c (r.andThen fun _ x w => .done answer x w) := by
  obtain ⟨channel, notes, result⟩ := h
  unfold Attempt.andThen
  cases hr : r.result with
  | ok a =>
    rw [hr] at result
    exact ⟨channel, notes, result⟩
  | error e =>
    rw [hr] at result
    exact ⟨channel, notes, result⟩

theorem mirrors_act_shutdown (x : Writer) (w : World) : Mirrors (x.channel.shutdown w) (act .shutdown x w) :=
  (x.mirrors_shutdown w).andThen_done .finished

theorem act_cases (op : Op) (x : Writer) (w : World) : Acts x w (act op x w) := by
  cases op with
  | write s => exact .sends ((x.relays_write s w).andThen fun _ x w => .done Writer.channel _ x w)
  | flush timeout => exact .flushes timeout ((x.mirrors_flush timeout w).andThen_done .finished)
  | property p => exact .sends ((x.relays_writeProperty p w).andThen fun _ x w => .done Writer.channel _ x w)
  | propertyIfDue p => exact .sends ((x.relays_writePropertyIfDue p w).andThen fun _ x w => .done Writer.channel _ x w)
  | shutdown => exact .ends (x.mirrors_act_shutdown w)

end Writer

end MetricFeed
