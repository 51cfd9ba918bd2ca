import MetricFeed.Proofs.Scribe
import MetricFeed.Proofs.Setbacks

/-!
# Writers in lockstep with a scribe

On a network that delivers everything, a channel takes every line that is short enough (`Channel.Ready`).  Each function
of a writer then returns what its scribe does and hands over the lines of the draft (`Follows`), wherever the batches
are cut.
-/

namespace MetricFeed

/-! ### Channels that take every line -/

/-- Dials to the target and writes succeed. -/
structure Network.Delivers (n : Network) (t : Target) : Prop where
  dial : ∀ i, n.dial i t = .linked
  write : ∀ i, n.write i = .delivered

namespace Channel

/-- No dial has to be put off, and nothing fails. -/
structure Ready (t : Channel) (w : World) : Prop where
  sound : t.Sound
  isOpen : t.closed = false
  dialable : t.link.up = true ∨ t.link.lastDial = none
  delivers : w.network.Delivers t.link.target
  delivered : ∀ b ∈ w.handed, b.2 = .delivered

/-- The second channel and world are the first after these lines were accepted, and as ready. -/
structure Takes (t : Channel) (w : World) (lines : List String) (t' : Channel) (w' : World) : Prop where
  ready : Ready t' w'
  capacity : t'.batch.capacity = t.batch.capacity
  accepted : w'.acceptedLines = w.acceptedLines ++ lines

section

variable {t t₁ t₂ : Channel} {w w₁ w₂ : World}

theorem Takes.refl (h : Ready t w) : Takes t w [] t w :=
  ⟨h, rfl, (List.append_nil _).symm⟩

theorem Takes.trans {a b : List String} (h₁ : Takes t w a t₁ w₁) (h₂ : Takes t₁ w₁ b t₂ w₂) :
    Takes t w (a ++ b) t₂ w₂ where
  ready := h₂.ready
  capacity := h₂.capacity.trans h₁.capacity
  accepted := by rw [h₂.accepted, h₁.accepted, List.append_assoc]

theorem Ready.next (h : Ready t w) (sound : t₁.Sound) (isOpen : t₁.closed = false)
    (dialable : t₁.link.up = true ∨ t₁.link.lastDial = none) (target : t₁.link.target = t.link.target)
    (meets : w.Meets false w₁) : Ready t₁ w₁ where
  sound := sound
  isOpen := isOpen
  dialable := dialable
  delivers := by
    obtain ⟨news, leads, -⟩ := meets
    rw [leads.network, target]
    exact h.delivers
  delivered := meets.delivered h.delivered

/-- The clocks may move. -/
theorem Ready.atCall (h : Ready t w) {ο : Type} (c : Call ο) : Ready t (w.atCall c) :=
  ⟨h.sound, h.isOpen, h.dialable, h.delivers, h.delivered⟩

theorem Takes.note {a : List String} (h : Takes t w a t₁ w₁) (notes : w₁.Leads [] w₂) : Takes t w a t₁ w₂ where
  ready := h.ready.next h.ready.sound h.ready.isOpen h.ready.dialable rfl ⟨[], notes, .nil, Nat.zero_le 1⟩
  capacity := h.capacity
  accepted := by
    rw [notes.acceptedLines, h.accepted]
    exact List.append_nil _

theorem Ready.send (h : Ready t w) {line : String} (short : line.utf8ByteSize < t.batch.capacity) :
    (t.send line w).result = .ok () ∧ Takes t w [line] (t.send line w).state (t.send line w).world := by
  have sends := send_cases h.sound line w
  have meets := sends.behaves.meets
  have sound := sends.sound h.sound
  have capacity := sends.capacity
  have accepted := sends.acceptedLines
  generalize t.send line w = r at sends meets sound capacity accepted ⊢
  cases sends with
  | closed isClosed => exact absurd isClosed (by simp [h.isOpen])
  | tooLong isOpen long => exact absurd short (Nat.not_lt.2 long)
  | throttled wait isOpen down early =>
    rcases h.dialable with up | never
    · simp [up] at down
    · simp [Link.wait?, never] at early
  | missed e outcome outage w' isOpen down due given failure news =>
    rw [h.delivers.dial] at given
    subst given
    cases failure
  | lost reason w' isOpen full up outcome news =>
    obtain ⟨n, failed⟩ := outcome
    rw [h.delivers.write] at failed
    cases failed
  | appended opened w' isOpen up => exact ⟨rfl, h.next sound isOpen (.inl up) rfl meets, capacity, accepted⟩
  | begun outage w' isOpen => exact ⟨rfl, h.next sound isOpen (.inl rfl) rfl meets, capacity, accepted⟩
  | moved w' isOpen short up => exact ⟨rfl, h.next sound isOpen (.inl up) rfl meets, capacity, accepted⟩

theorem Ready.flush (h : Ready t w) (timeout : Nat) :
    (t.flush timeout w).result = .ok () ∧ Takes t w [] (t.flush timeout w).state (t.flush timeout w).world := by
  have flushes := flush_cases h.sound.linked timeout w
  have meets := flushes.meets
  have sound := flushes.sound h.sound
  have capacity := flushes.capacity
  have accepted := flushes.acceptedLines.trans (List.append_nil _).symm
  generalize t.flush timeout w = r at flushes meets sound capacity accepted ⊢
  cases flushes with
  | waiting => exact ⟨rfl, h, capacity, accepted⟩
  | nothing => exact ⟨rfl, h.next sound h.isOpen h.dialable rfl meets, capacity, accepted⟩
  | written w' due full up => exact ⟨rfl, h.next sound h.isOpen (.inl up) rfl meets, capacity, accepted⟩
  | lost reason w' due full up outcome =>
    rw [h.delivers.write] at outcome
    cases outcome

/-- Shutting a ready channel down succeeds: what waited is delivered. -/
theorem Ready.shutdown (h : Ready t w) :
    (t.shutdown w).result = .ok () ∧ (∀ b ∈ (t.shutdown w).world.handed, b.2 = .delivered) ∧
      (t.shutdown w).state.batch.text = "" ∧ (t.shutdown w).world.acceptedLines = w.acceptedLines := by
  have ends := shutdown_cases h.sound w
  have meets := ends.meets
  have empty := ends.empty h.sound
  have accepted := ends.acceptedLines
  generalize t.shutdown w = r at ends meets empty accepted ⊢
  cases ends with
  | already => exact ⟨rfl, meets.delivered h.delivered, empty, accepted⟩
  | nothing => exact ⟨rfl, meets.delivered h.delivered, empty, accepted⟩
  | written => exact ⟨rfl, meets.delivered h.delivered, empty, accepted⟩
  | lost reason w' isOpen full up outcome =>
    rw [h.delivers.write] at outcome
    cases outcome

end

end Channel

/-! ### Attempts that follow a draft -/

section

variable {σ α β : Type}

/-- If the channel is ready and the lines of the draft are short enough for it, the attempt returns what the draft
does, hands over its lines and leaves the writer with the scribe of the draft. -/
def Follows (read : σ → Scribe) (chan : σ → Channel) (d : Draft α) (t : Channel) (w : World)
    (r : Attempt WriteError σ α) : Prop :=
  t.Ready w → (∀ line ∈ d.lines, line.utf8ByteSize < t.batch.capacity) →
    r.result = d.result ∧ read r.state = d.scribe ∧ t.Takes w d.lines (chan r.state) r.world

namespace Follows

variable {read : σ → Scribe} {chan : σ → Channel} {t : Channel} {w : World}

theorem done (a : α) (s : σ) (w : World) : Follows read chan (.done a (read s)) (chan s) w (.done a s w) :=
  fun ready _ => ⟨rfl, rfl, .refl ready⟩

theorem fail (e : WriteError) (s : σ) (w : World) :
    Follows read chan (.fail e (read s) : Draft α) (chan s) w (.fail e s w) :=
  fun ready _ => ⟨rfl, rfl, .refl ready⟩

theorem andThen {d : Draft α} {next' : α → Scribe → Draft β} {r : Attempt WriteError σ α}
    {next : α → σ → World → Attempt WriteError σ β} (h : Follows read chan d t w r)
    (hn : ∀ a s w, Follows read chan (next' a (read s)) (chan s) w (next a s w)) :
    Follows read chan (d.andThen next') t w (r.andThen next) := by
  intro ready short
  unfold Draft.andThen at short ⊢
  unfold Attempt.andThen
  cases hd : d.result with
  | error e =>
    simp only [hd] at short ⊢
    obtain ⟨result, scribe, takes⟩ := h ready short
    rw [result, hd]
    exact ⟨rfl, scribe, takes⟩
  | ok a =>
    simp only [hd] at short ⊢
    obtain ⟨result, scribe, takes⟩ := h ready fun line hl => short line (List.mem_append_left _ hl)
    rw [result, hd]
    have follows := hn a r.state r.world
    rw [scribe] at follows
    obtain ⟨result', scribe', takes'⟩ := follows takes.ready fun line hl => by
      rw [takes.capacity]
      exact short line (List.mem_append_right _ hl)
    exact ⟨result', scribe', takes.trans takes'⟩

end Follows

end

/-! ### Samples -/

namespace Work

/-- What a scribe would know at this point. -/
def scribe (k : Work) : Scribe where
  wording := k.writer.node.wording
  filter := k.writer.filter
  described := k.writer.described
  report := k.report

theorem follows_send (k : Work) (c : Command) (w : World) :
    Follows scribe channel (k.scribe.say c) k.channel w (k.send c w) := by
  unfold send Writer.sendCommand Scribe.say
  cases c.line with
  | error e => exact .fail (.command e) k w
  | ok line =>
    intro ready short
    obtain ⟨result, takes⟩ := ready.send (short line (List.mem_singleton.2 rfl))
    simp only [Writer.sendLine, Attempt.mapError, Attempt.within, Attempt.andThen, channel] at result takes ⊢
    rw [result]
    exact ⟨rfl, rfl, takes⟩

theorem follows_describe (k : Work) (s : Series) (w : World) :
    Follows scribe channel (k.scribe.describe s) k.channel w (k.describe s w) := by
  unfold describe Scribe.describe
  show Follows scribe channel
    (if k.writer.node.metricDefinitions && !k.writer.described.contains s.metric then _ else _) _ _ _
  split
  · exact (k.follows_send s.definition w).andThen fun _ k w => .done () (k.markDescribed s.metric) w
  · exact .done () k w

theorem follows_sendSeries (k : Work) (s : Series) (w : World) :
    Follows scribe channel (k.scribe.saySeries s) k.channel w (k.sendSeries s w) :=
  (k.follows_describe s w).andThen fun _ k w => k.follows_send s.command w

theorem follows_sendAll (all : List Series) (k : Work) (w : World) :
    Follows scribe channel (k.scribe.sayAll all) k.channel w (k.sendAll all w) := by
  induction all generalizing k w with
  | nil => exact .done () k w
  | cons s rest ih => exact (k.follows_sendSeries s w).andThen fun _ k w => ih k w

theorem follows_writeObservation (k : Work) (o : Observation) (w : World) :
    Follows scribe channel (k.scribe.sayObservation o) k.channel w (k.writeObservation o w) := by
  unfold writeObservation Scribe.sayObservation
  cases o.derive with
  | ok all => exact follows_sendAll all k w
  | error e => exact .fail (.series e) k w

theorem follows_settle {d : Draft Unit} {t : Channel} {w : World} {r : Attempt WriteError Work Unit}
    (h : Follows scribe channel d t w r) (s : Sample) (ds : DataSource) :
    Follows scribe channel (Scribe.settle d) t w (settle s ds r) := by
  intro ready short
  have lines : (Scribe.settle d).lines = d.lines := by
    unfold Scribe.settle
    split
    · rfl
    · split <;> rfl
  rw [lines] at short ⊢
  obtain ⟨result, scribe, takes⟩ := h ready short
  unfold settle Scribe.settle
  rw [result]
  cases hd : d.result with
  | ok _ => exact ⟨result, scribe, takes⟩
  | error e =>
    dsimp only
    split
    · refine ⟨rfl, ?_, takes.note (World.leads_log _ _ _ _)⟩
      rw [← scribe]
      rfl
    · exact ⟨result, scribe, takes⟩

theorem follows_writeValue (k : Work) (s : Sample) (entity : String) (index : Nat) (ds : DataSource) (w : World) :
    Follows scribe channel (k.scribe.sayValue s entity index ds) k.channel w (k.writeValue s entity index ds w) := by
  unfold writeValue Scribe.sayValue
  dsimp only
  split
  · exact .done () { k with report := { k.report with skipped := k.report.skipped + 1 } } w
  · rw [show k.scribe.filter = k.writer.filter from rfl]
    generalize k.writer.filter.check s.key (ds.value.text (s.rate? index)) s.time = checked
    obtain ⟨checked, filter⟩ := checked
    let k' : Work := { k with writer := { k.writer with filter } }
    match checked with
    | .error e => exact .fail (.filter e) k' w
    | .ok .suppress => exact .done () { k' with report := { k'.report with suppressed := k'.report.suppressed + 1 } } w
    | .ok .send => exact follows_settle (k'.follows_writeObservation _ w) s ds

theorem follows_writeValues (s : Sample) (entity : String) (values : List DataSource) (k : Work) (index : Nat)
    (w : World) : Follows scribe channel (k.scribe.sayValues s entity index values) k.channel w
      (k.writeValues s entity index values w) := by
  induction values generalizing k index w with
  | nil => exact .done () k w
  | cons ds rest ih => exact (k.follows_writeValue s entity index ds w).andThen fun _ k w => ih k (index + 1) w

theorem follows_writeSample (k : Work) (s : Sample) (entity : String) (w : World) :
    Follows scribe channel (k.scribe.sayValues s entity 0 s.values) k.channel w (k.writeSample s entity w) := by
  intro ready
  -- a ready channel is open, so the guard of the writer lets the sample pass
  have isOpen : k.writer.channel.closed = false := ready.isOpen
  unfold writeSample
  rw [isOpen]
  exact follows_writeValues s entity s.values k 0 w ready

end Work

/-! ### Operations -/

namespace Writer

/-- What a scribe would know at this point. -/
def scribe (x : Writer) : Scribe := Work.scribe { writer := x }

theorem follows_write (x : Writer) (s : Sample) (w : World) :
    Follows scribe channel (x.scribe.saySample s w.machine) x.channel w (x.write s w) := by
  unfold write Scribe.saySample
  rw [show x.scribe.prepare s w.machine = x.prepare s w from rfl]
  intro ready short
  cases hp : x.prepare s w with
  | error e => exact ⟨rfl, rfl, (Channel.Takes.refl ready).note (World.leads_log _ _ _ _)⟩
  | ok entity =>
    rw [hp] at short
    obtain ⟨result, scribe, takes⟩ := Work.follows_writeSample { writer := x } s entity w ready short
    dsimp only
    generalize Work.writeSample { writer := x } s entity w = r at result scribe takes ⊢
    generalize hd : Scribe.sayValues (Work.scribe { writer := x }) s entity 0 s.values = d at result scribe takes
    rw [show x.scribe.sayValues s entity 0 s.values = d from hd, result, ← scribe]
    cases d.result with
    | ok _ => exact ⟨rfl, rfl, takes⟩
    | error e => exact ⟨rfl, rfl, takes.note (leads_logFailure _ _ _ _)⟩

theorem follows_writeProperty (x : Writer) {p : Property} (timed : p.time ≠ 0) (w : World) :
    Follows scribe channel (x.scribe.sayProperty p w.machine) x.channel w (x.writeProperty p w) := by
  unfold writeProperty Scribe.sayProperty
  rw [show p.stamped w.stamp = p from if_neg timed]
  rw [show Entity.resolve w.machine x.scribe.wording.entity p.host x.scribe.wording.shortHostname =
    Entity.resolve w.machine x.node.entity p.host x.node.shortHostname from rfl]
  cases Entity.resolve w.machine x.node.entity p.host x.node.shortHostname with
  | error e => exact .fail (.name e) x w
  | ok entity =>
    dsimp only
    cases (p.command entity).line with
    | error e => exact .fail (.command e) x w
    | ok line =>
      intro ready short
      obtain ⟨result, takes⟩ := ready.send (short line (List.mem_singleton.2 rfl))
      simp only [sendProperty, sendLine, Attempt.mapError, Attempt.within]
      rw [result]
      exact ⟨rfl, rfl, takes.note (World.leads_log _ _ _ _)⟩

/-- A request is answered as the scribe answers it. -/
theorem follows_act (x : Writer) (q : Request) (w : World) :
    Follows scribe channel (x.scribe.answer q w.machine) x.channel w (act q.op x w) := by
  cases q with
  | sample s => exact (x.follows_write s w).andThen fun r x w => .done (Answer.report r) x w
  | property p timed => exact (x.follows_writeProperty timed w).andThen fun _ x w => .done Answer.finished x w

/-- Flushing changes nothing that the scribe knows of. -/
theorem flush_ready {x : Writer} {w : World} (ready : x.channel.Ready w) (timeout : Nat) :
    (act (.flush timeout) x w).result = .ok .finished ∧ (act (.flush timeout) x w).state.scribe = x.scribe ∧
      x.channel.Takes w [] (act (.flush timeout) x w).state.channel (act (.flush timeout) x w).world := by
  obtain ⟨result, takes⟩ := ready.flush timeout
  simp only [act, flush, Attempt.andThen]
  rw [result]
  exact ⟨rfl, rfl, takes⟩

theorem shutdown_ready {x : Writer} {w : World} (ready : x.channel.Ready w) :
    let r := act .shutdown x w
    r.result = .ok .finished ∧ (∀ b ∈ r.world.handed, b.2 = .delivered) ∧ r.state.channel.batch.text = "" ∧
      r.world.acceptedLines = w.acceptedLines := by
  obtain ⟨result, delivered, empty, accepted⟩ := ready.shutdown
  simp only [act, shutdown, Attempt.andThen, ready.isOpen, Bool.false_eq_true, if_false]
  rw [result]
  exact ⟨rfl, delivered, empty, accepted⟩

end Writer

end MetricFeed
