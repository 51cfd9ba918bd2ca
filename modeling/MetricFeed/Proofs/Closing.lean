import MetricFeed.Proofs.Definitions
import MetricFeed.Proofs.Setbacks

/-!
# After the shutdown

A shutdown writes what waits in one block, whatever becomes of the block, and leaves a writer with an empty batch and
no link (`Writer.Over`).  Such a writer rests: no operation does anything to the network, to the batch or to what the
writer has learnt, a flush or another shutdown succeeds, and whatever is to be sent meets an error that does not pass
(`Writer.Over.act`).  So a shutdown is final (`Writer.shutdown_final`).
-/

namespace MetricFeed

/-! ### Channels -/

namespace Channel

variable {t : Channel} {w : World} {r : Attempt DeliveryError Channel Unit}

/-- A shutdown writes what waits, in one block. -/
theorem Ends.traffic (h : Ends t w r) (sound : t.Sound) :
    (t.batch.text = "" ∧ r.world.traffic = w.traffic) ∨
      (t.batch.text ≠ "" ∧ ∃ outcome, r.world.traffic = .wrote t.batch.text outcome :: w.traffic) := by
  cases h with
  | already isClosed => exact .inl ⟨(sound.closed isClosed).1, rfl⟩
  | nothing w' _ empty news => exact .inl ⟨empty, news.traffic⟩
  | written w' _ full _ news => exact .inr ⟨full, _, news.traffic⟩
  | lost reason w' _ full _ _ news => exact .inr ⟨full, _, news.traffic⟩

theorem Ends.closed (h : Ends t w r) : r.state.closed = true := by
  cases h with
  | already isClosed => exact isClosed
  | nothing => rfl
  | written => rfl
  | lost => rfl

/-- With nothing to write, a flush does no more than start the clock of the batch again. -/
theorem Flushes.of_empty {timeout : Nat} (h : Flushes t timeout w r) (empty : t.batch.text = "") :
    r.result = .ok () ∧ r.state.batch.text = "" ∧ r.state.link = t.link ∧ r.state.closed = t.closed ∧ r.world = w := by
  cases h with
  | waiting => exact ⟨rfl, empty, rfl, rfl, rfl⟩
  | nothing => exact ⟨rfl, empty, rfl, rfl, rfl⟩
  | written w' _ full => exact absurd empty full
  | lost reason w' _ full => exact absurd empty full

theorem send_of_closed (isClosed : t.closed = true) (line : String) (w : World) :
    t.send line w = .fail .closed t w :=
  if_pos isClosed

end Channel

namespace Writer

/-! ### Writers that are shut down -/

/-- The writer is shut down, with nothing left to write and no link. -/
structure Over (x : Writer) : Prop where
  closed : x.channel.closed = true
  empty : x.channel.batch.text = ""
  down : x.isLinked = false

/-- The second writer in the second world is the first one, which has gone on for a while without doing anything: its
link, its filter, the metrics it takes for described and the number of lines it has sent are the same, and there was no
traffic. -/
structure Rests (x : Writer) (w : World) (x' : Writer) (w' : World) : Prop where
  isOver : x'.Over
  link : x'.channel.link = x.channel.link
  filter : x'.filter = x.filter
  described : x'.described = x.described
  linesSent : x'.counts.linesSent = x.counts.linesSent
  traffic : w'.traffic = w.traffic

/-- An error that does not pass. -/
def Refused (r : Except WriteError Answer) : Prop :=
  ∃ e, r = .error e ∧ e.isTransient = false

/-- What an operation returns at `now`, if the writer `x` is shut down. -/
def Settled (x : Writer) (now : Int) : Op → Except WriteError Answer → Prop
  | .write _, r => Refused r
  | .flush _, r => r = .ok .finished
  | .property _, r => Refused r
  | .propertyIfDue _, r => if x.propertyDue now then Refused r else r = .ok (.sent false)
  | .shutdown, r => r = .ok .finished

variable {x x₁ x₂ : Writer} {w w₁ w₂ : World}

theorem Rests.trans (h₁ : Rests x w x₁ w₁) (h₂ : Rests x₁ w₁ x₂ w₂) : Rests x w x₂ w₂ where
  isOver := h₂.isOver
  link := h₂.link.trans h₁.link
  filter := h₂.filter.trans h₁.filter
  described := h₂.described.trans h₁.described
  linesSent := h₂.linesSent.trans h₁.linesSent
  traffic := h₂.traffic.trans h₁.traffic

/-- The clocks of a call are no traffic. -/
theorem Rests.ofCall {c : Call Op} (h : Rests x (w.atCall c) x₁ w₁) : Rests x w x₁ w₁ :=
  ⟨h.isOver, h.link, h.filter, h.described, h.linesSent, h.traffic⟩

theorem shutdown_of_closed (isClosed : x.channel.closed = true) (w : World) : x.shutdown w = .done () x w :=
  if_pos isClosed

namespace Over

variable (isOver : x.Over)

include isOver

theorem rests (notes : w.Leads [] w') : Rests x w x w' :=
  ⟨isOver, rfl, rfl, rfl, rfl, notes.traffic⟩

theorem write (s : Sample) (w : World) :
    Rests x w (x.write s w).state (x.write s w).world ∧
      ∃ e, (x.write s w).result = .error e ∧ e.isTransient = false := by
  cases prepared : x.prepare s w with
  | error e =>
    rw [write_of_unprepared prepared]
    exact ⟨⟨⟨isOver.closed, isOver.empty, isOver.down⟩, rfl, rfl, rfl, rfl, (w.leads_log _ _ _).traffic⟩, e, rfl,
      isTransient_of_prepare prepared⟩
  | ok entity =>
    have refused : ({ writer := x } : Work).writeSample s entity w = .fail (.delivery .closed) { writer := x } w :=
      if_pos isOver.closed
    rw [write_of_prepared prepared, refused]
    exact ⟨⟨⟨isOver.closed, isOver.empty, isOver.down⟩, rfl, rfl, rfl, rfl, (leads_logFailure _ s _ w).traffic⟩, _,
      rfl, rfl⟩

theorem writeProperty (p : Property) (w : World) :
    Rests x w (x.writeProperty p w).state (x.writeProperty p w).world ∧
      ∃ e, (x.writeProperty p w).result = .error e ∧ e.isTransient = false := by
  unfold Writer.writeProperty
  split
  · rename_i e _
    exact ⟨isOver.rests (.refl w), .name e, rfl, rfl⟩
  · split
    · rename_i e _
      exact ⟨isOver.rests (.refl w), .command e, rfl, rfl⟩
    · rename_i line _
      have refused : x.sendLine line w = .fail (.delivery .closed) x w := by
        unfold sendLine
        rw [Channel.send_of_closed isOver.closed]
        rfl
      unfold sendProperty
      rw [refused]
      exact ⟨⟨⟨isOver.closed, isOver.empty, isOver.down⟩, rfl, rfl, rfl, rfl, (w.leads_log _ _ _).traffic⟩, _, rfl, rfl⟩

theorem flush (timeout : Nat) (w : World) :
    Rests x w (x.flush timeout w).state (x.flush timeout w).world ∧ (x.flush timeout w).result = .ok () := by
  have flushes := Channel.flush_cases (fun full => absurd isOver.empty full) timeout w
  obtain ⟨result, empty, link, closed, world⟩ := flushes.of_empty isOver.empty
  unfold Writer.flush
  dsimp only
  rw [result]
  refine ⟨⟨⟨closed.trans isOver.closed, empty, ?_⟩, link, rfl, rfl, rfl, congrArg World.traffic world⟩, rfl⟩
  exact (congrArg Link.up link).trans isOver.down

/-- One operation. -/
theorem act (op : Op) (w : World) :
    Rests x w (act op x w).state (act op x w).world ∧ Settled x w.now op (act op x w).result := by
  cases op with
  | write s =>
    obtain ⟨rests, e, refused, lasting⟩ := isOver.write s w
    rw [act_write_eq, refused]
    exact ⟨rests, e, rfl, lasting⟩
  | flush timeout =>
    obtain ⟨rests, done⟩ := isOver.flush timeout w
    rw [act_flush_eq, done]
    exact ⟨rests, rfl⟩
  | property p =>
    obtain ⟨rests, e, refused, lasting⟩ := isOver.writeProperty p w
    rw [act_property_eq, refused]
    exact ⟨rests, e, rfl, lasting⟩
  | propertyIfDue p =>
    obtain ⟨rests, e, refused, lasting⟩ := isOver.writeProperty p w
    unfold Writer.act writePropertyIfDue Settled
    dsimp only
    split
    · unfold Attempt.andThen
      rw [refused]
      exact ⟨rests, e, rfl, lasting⟩
    · exact ⟨isOver.rests (.refl w), rfl⟩
  | shutdown =>
    rw [act_shutdown_eq, shutdown_of_closed isOver.closed]
    exact ⟨isOver.rests (.refl w), rfl⟩

/-- Giving the writer up changes nothing. -/
theorem discard (w : World) : x.discard w = (x, w) := by
  unfold Writer.discard
  rw [shutdown_of_closed isOver.closed]
  rfl

end Over

/-! ### The shutdown -/

/-- A shutdown, whatever becomes of its block. -/
theorem over_shutdown (sound : x.channel.Sound) (w : World) : (act .shutdown x w).state.Over := by
  have mirrors := x.mirrors_act_shutdown w
  have ends := Channel.shutdown_cases sound w
  obtain ⟨empty, down⟩ := (ends.sound sound).closed ends.closed
  constructor
  · rw [mirrors.channel]
    exact ends.closed
  · rw [mirrors.channel]
    exact empty
  · unfold isLinked
    rw [mirrors.channel]
    exact down

/-- Nothing comes after a shutdown.  It writes what waits in one block, or nothing if nothing waits, and leaves nothing
waiting and no link.  At any later point of the run there was no traffic since, the filter, the described metrics and
the number of lines sent are the same, the next operation returns what is left to it (`Settled`), and giving the writer
up does nothing. -/
theorem shutdown_final (s : Settings) (network : Network) (now wall : Int) (machine : HostAnswer)
    (calls later : List (Call Op)) (now' wall' : Int) (machine' : HostAnswer) :
    let ending : Call Op := ⟨.shutdown, now', wall', machine'⟩
    let k := course s network now wall machine calls
    let k₁ := course s network now wall machine (calls ++ [ending])
    let k₂ := course s network now wall machine (calls ++ ending :: later)
    let text := k.state.channel.batch.text
    ((text = "" ∧ k₁.world.traffic = k.world.traffic) ∨
      (text ≠ "" ∧ ∃ outcome, k₁.world.traffic = .wrote text outcome :: k.world.traffic)) ∧
    k₁.state.Over ∧ Rests k₁.state k₁.world k₂.state k₂.world ∧
    (∀ c : Call Op, Settled k₂.state c.now c.op (act c.op k₂.state (k₂.world.atCall c)).result) ∧
    ∀ w, k₂.state.discard w = (k₂.state, w) := by
  intro ending k k₁ k₂ text
  have sound : k.state.channel.Sound := (faithful_course s network now wall machine calls).account.sound
  have last : k₁ = k.next act ending := Course.run_concat ..
  have isOver : k₁.state.Over := by
    rw [last]
    exact over_shutdown sound (k.world.atCall ending)
  have rests : Rests k₁.state k₁.world k₂.state k₂.world := by
    have split : k₂ = course s network now wall machine ((calls ++ [ending]) ++ later) := by
      rw [List.append_assoc, List.singleton_append]
    rw [split]
    refine Course.run_append_induction (fun k₂ => Rests k₁.state k₁.world k₂.state k₂.world) _ later ?_ ?_
    · exact isOver.rests (.refl _)
    · intro k₂ c rests
      exact rests.trans (rests.isOver.act c.op (k₂.world.atCall c)).1.ofCall
  refine ⟨?_, isOver, rests, fun c => (rests.isOver.act c.op _).2, rests.isOver.discard⟩
  have mirrors := k.state.mirrors_act_shutdown (k.world.atCall ending)
  have traffic : k₁.world.traffic = (k.state.channel.shutdown (k.world.atCall ending)).world.traffic := by
    rw [last]
    exact mirrors.notes.traffic
  rw [traffic]
  rcases (Channel.shutdown_cases sound (k.world.atCall ending)).traffic sound with ⟨empty, same⟩ | ⟨full, outcome, one⟩
  · exact .inl ⟨empty, same⟩
  · exact .inr ⟨full, outcome, one⟩

end Writer

end MetricFeed
