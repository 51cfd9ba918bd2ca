import MetricFeed.Proofs.LinkRuns
import MetricFeed.Proofs.Setbacks

/-!
# The pace of dials

Any two dials of a link lie at least its interval apart, whatever became of the first one (`Link.Paced`).  A link that
is asked to come up too early puts the dial off by exactly the time that is missing, and nothing else changes
(`Link.Paced.dials_or_putsOff`).  Both hold of the link alone, of the link of a channel and of that of a writer, as
long as the clock does not go backwards (`Link.dials_spaced`).
-/

namespace MetricFeed

/-- The time of a dial. -/
def Event.dialTime? : Event → Option Int
  | .dialed time _ => some time
  | _ => none

/-- The times of all dials, oldest first. -/
def World.dialTimes (w : World) : List Int :=
  (w.history.filterMap Event.dialTime?).reverse

theorem World.Leads.dialTimes {w w' : World} {news : List Event} (h : w.Leads news w') :
    w'.dialTimes = w.dialTimes ++ (news.filterMap Event.dialTime?).reverse := by
  unfold World.dialTimes
  rw [h.filterMap (fun _ => rfl), List.reverse_append]

namespace Link

/-! ### What a link that is down does when it is asked to come up -/

/-- It dials, once. -/
def DialsOnce (l : Link) (w : World) : Prop :=
  ∃ outcome, w.Leads [.dialed w.now outcome] (l.connect w).world ∧
    ((l.connect w).result.isOk = true ↔ outcome = .linked)

/-- It puts the dial off for `wait` microseconds.  The link stays as it is, its counts and its outage included, and all
that happens in the world is that. -/
def PutsOff (l : Link) (w : World) (wait : Nat) : Prop :=
  l.connect w = .fail (.tryLater wait) l (w.record (.postponed w.now wait))

variable {l l' : Link} {w w' : World} {interval wait : Nat}

theorem putsOff_of_early (down : l.up = false) (early : l.wait? w.now = some wait) : l.PutsOff w wait := by
  unfold PutsOff connect
  rw [down, early]
  rfl

theorem dialsOnce_of_due (down : l.up = false) (due : l.wait? w.now = none) : l.DialsOnce w := by
  have h := l.connect_cases w
  unfold DialsOnce
  generalize l.connect w = r at h ⊢
  cases h with
  | already up =>
    rw [up] at down
    cases down
  | throttled wait _ early =>
    rw [due] at early
    cases early
  | linked outage w' _ _ _ news => exact ⟨.linked, news, by simp [Attempt.done, Except.isOk, Except.toBool]⟩
  | missed e outcome outage w' _ _ _ failure news =>
    have refused : outcome ≠ .linked := (isTransient_of_dialError? failure).2
    exact ⟨outcome, news, by simp [Attempt.fail, Except.isOk, Except.toBool, refused]⟩

theorem wait?_eq_some_iff {last now : Int} (dialled : l.lastDial = some last) :
    l.wait? now = some wait ↔ 0 < wait ∧ Micros.since last now + wait = l.minInterval := by
  unfold wait?
  rw [dialled]
  dsimp only
  split
  · rw [Option.some.injEq]
    omega
  · constructor
    · intro h
      cases h
    · intro h
      omega

theorem wait?_eq_none_iff {last now : Int} (dialled : l.lastDial = some last) :
    l.wait? now = none ↔ l.minInterval ≤ Micros.since last now := by
  unfold wait?
  rw [dialled]
  dsimp only
  split
  · constructor
    · intro h
      cases h
    · intro h
      omega
  · constructor
    · intro _
      omega
    · intro _
      rfl

/-! ### Dials keep their distance -/

/-- The dials of a world lie at least the interval apart, and the link knows of the last one. -/
structure Paced (interval : Nat) (l : Link) (w : World) : Prop where
  spacing : l.minInterval = interval
  last : l.lastDial = w.dialTimes.getLast?
  past : ∀ t ∈ w.dialTimes, t ≤ w.now
  apart : w.dialTimes.Pairwise fun a b : Int => a + interval ≤ b

namespace Paced

theorem start (target : Target) (interval : Nat) (network : Network) (now wall : Int) (machine : HostAnswer) :
    Paced interval { target, minInterval := interval } (.fresh network now wall machine) where
  spacing := rfl
  last := rfl
  past t ht := by cases ht
  apart := List.Pairwise.nil

/-- Time passes. -/
theorem later (h : Paced interval l w) {ο : Type} {c : Call ο} (forward : w.now ≤ c.now) :
    Paced interval l (w.atCall c) where
  spacing := h.spacing
  last := h.last
  past t ht := Int.le_trans (h.past t ht) forward
  apart := h.apart

/-- Nothing is dialled. -/
theorem keep (h : Paced interval l w) {news : List Event} (leads : w.Leads news w')
    (calm : news.filterMap Event.dialTime? = []) (same : l'.lastDial = l.lastDial)
    (sameInterval : l'.minInterval = l.minInterval) : Paced interval l' w' := by
  have times : w'.dialTimes = w.dialTimes := by
    rw [leads.dialTimes, calm, List.reverse_nil, List.append_nil]
  refine ⟨sameInterval.trans h.spacing, ?_, ?_, ?_⟩
  · rw [same, times]
    exact h.last
  · rw [times, leads.now]
    exact h.past
  · rw [times]
    exact h.apart

/-- Every dial so far lies at least the interval back when the next one is due. -/
theorem apart_of_due (h : Paced interval l w) (due : l.wait? w.now = none) :
    ∀ t ∈ w.dialTimes, t + interval ≤ w.now := by
  intro t ht
  rcases List.eq_nil_or_concat w.dialTimes with none | ⟨before, last, times⟩
  · rw [none] at ht
    cases ht
  · rw [List.concat_eq_append] at times
    have known : l.lastDial = some last := by
      rw [h.last, times]
      exact List.getLast?_concat
    have elapsed := (wait?_eq_none_iff known).1 due
    have past : last ≤ w.now := h.past last (by rw [times]; simp)
    have apart := h.apart
    rw [h.spacing] at elapsed
    rw [times] at ht apart
    unfold Micros.since at elapsed
    rcases List.mem_append.1 ht with ht | ht
    · have := (List.pairwise_append.1 apart).2.2 t ht last List.mem_cons_self
      omega
    · rw [List.mem_singleton.1 ht]
      omega

/-- A dial is made when it is due. -/
theorem dial (h : Paced interval l w) {news : List Event} (due : l.wait? w.now = none) (leads : w.Leads news w')
    (dialled : news.filterMap Event.dialTime? = [w.now]) (last : l'.lastDial = some w.now)
    (sameInterval : l'.minInterval = l.minInterval) : Paced interval l' w' := by
  have times : w'.dialTimes = w.dialTimes ++ [w.now] := by
    rw [leads.dialTimes, dialled, List.reverse_singleton]
  refine ⟨sameInterval.trans h.spacing, ?_, ?_, ?_⟩
  · rw [last, times]
    exact List.getLast?_concat.symm
  · intro t ht
    rw [times] at ht
    rw [leads.now]
    rcases List.mem_append.1 ht with ht | ht
    · exact h.past t ht
    · exact Int.le_of_eq (List.mem_singleton.1 ht)
  · rw [times, List.pairwise_append]
    refine ⟨h.apart, List.pairwise_singleton _ _, ?_⟩
    intro t ht now hnow
    rw [List.mem_singleton.1 hnow]
    exact h.apart_of_due due t ht

end Paced

/-- A link that is down dials at once, or it puts the dial off for exactly as long as it has to wait. -/
theorem Paced.dials_or_putsOff (h : Paced interval l w) (down : l.up = false) :
    l.DialsOnce w ∨ ∃ wait, 0 < wait ∧ wait ≤ interval ∧ l.PutsOff w wait ∧
      ∀ c : Call Unit, w.now ≤ c.now →
        let later := (w.record (.postponed w.now wait)).atCall c
        (c.now < w.now + wait → ∃ rest : Nat, c.now + rest = w.now + wait ∧ l.PutsOff later rest) ∧
          (w.now + wait ≤ c.now → l.DialsOnce later) := by
  cases early : l.wait? w.now with
  | none => exact .inl (dialsOnce_of_due down early)
  | some wait =>
    right
    obtain ⟨last, known⟩ : ∃ last, l.lastDial = some last := by
      cases known : l.lastDial with
      | none => simp [wait?, known] at early
      | some last => exact ⟨last, rfl⟩
    have past : last ≤ w.now := by
      apply h.past
      rw [h.last] at known
      exact List.mem_of_getLast? known
    obtain ⟨positive, missing⟩ := (wait?_eq_some_iff known).1 early
    have bounded : wait ≤ interval := by
      rw [← h.spacing]
      omega
    unfold Micros.since at missing
    refine ⟨wait, positive, bounded, putsOff_of_early down early, fun c forward => ⟨?_, ?_⟩⟩
    · intro before
      refine ⟨(w.now + wait - c.now).toNat, by omega, putsOff_of_early down ?_⟩
      rw [wait?_eq_some_iff known]
      show _ ∧ (c.now - last).toNat + _ = _
      omega
    · intro after
      apply dialsOnce_of_due down
      rw [wait?_eq_none_iff known]
      show _ ≤ (c.now - last).toNat
      omega

/-! ### Links -/

theorem Connects.paced {r : Attempt DeliveryError Link Bool} (h : Connects l w r) (paced : Paced interval l w) :
    Paced interval r.state r.world := by
  cases h with
  | already => exact paced
  | throttled wait => exact paced.keep (w.leads_record rfl) rfl rfl rfl
  | linked outage w' _ due _ news => exact paced.dial due news rfl rfl rfl
  | missed e outcome outage w' _ due _ _ news => exact paced.dial due news rfl rfl rfl

theorem Writes.paced {block : String} {r : Attempt DeliveryError Link Unit} (h : Writes l block w r)
    (paced : Paced interval l w) : Paced interval r.state r.world := by
  cases h with
  | refused => exact paced
  | delivered w' _ news => exact paced.keep news rfl rfl rfl
  | lost reason w' _ news => exact paced.keep news rfl rfl rfl

theorem paced_act (op : Op) (paced : Paced interval l w) : Paced interval (act op l w).state (act op l w).world := by
  cases op with
  | connect =>
    have connected := (l.connect_cases w).paced paced
    exact Attempt.andThen_induction (Paced interval) connected fun _ _ _ h => h
  | write block => exact (l.write_cases block w).paced paced
  | close =>
    obtain ⟨eq, notes⟩ := l.close_eq w
    unfold act Attempt.done
    dsimp only
    rw [eq]
    exact paced.keep notes rfl rfl rfl

theorem paced_run (target : Target) (interval : Nat) (network : Network) (now wall : Int) (machine : HostAnswer)
    {calls : List (Call Op)} (forward : Forward now calls) :
    let k := Course.run act { target, minInterval := interval } (.fresh network now wall machine) calls
    Paced interval k.state k.world := by
  refine Course.forward_induction (fun k => Paced interval k.state k.world) ?_ ?_ forward
  · exact .start target interval network now wall machine
  · intro k c passes paced
    obtain ⟨news, leads⟩ := leads_act c.op k.state (k.world.atCall c)
    exact ⟨paced_act c.op (paced.later passes), leads.now⟩

end Link

/-! ### Channels -/

/-- Time does not pass in an operation. -/
theorem World.Meets.now {w w' : World} {stopped : Bool} (h : w.Meets stopped w') : w'.now = w.now := by
  obtain ⟨news, leads, -⟩ := h
  exact leads.now

namespace Channel

variable {t : Channel} {w : World} {r : Attempt DeliveryError Channel Unit} {interval : Nat}

theorem Sends.paced {line : String} (h : Sends t line w r) (paced : t.link.Paced interval w) :
    r.state.link.Paced interval r.world := by
  cases h with
  | closed => exact paced
  | tooLong => exact paced
  | throttled wait => exact paced.keep (w.leads_record rfl) rfl rfl rfl
  | missed e outcome outage w' _ _ due _ _ news => exact paced.dial due news rfl rfl rfl
  | lost reason w' _ _ _ _ news => exact paced.keep news rfl rfl rfl
  | appended opened w' _ _ _ _ news => exact paced.keep news rfl rfl rfl
  | begun outage w' _ _ _ due _ news => exact paced.dial due news rfl rfl rfl
  | moved w' _ _ _ _ news => exact paced.keep news rfl rfl rfl

theorem Flushes.paced {timeout : Nat} (h : Flushes t timeout w r) (paced : t.link.Paced interval w) :
    r.state.link.Paced interval r.world := by
  cases h with
  | waiting => exact paced
  | nothing => exact paced
  | written w' _ _ _ news => exact paced.keep news rfl rfl rfl
  | lost reason w' _ _ _ _ news => exact paced.keep news rfl rfl rfl

theorem Ends.paced (h : Ends t w r) (paced : t.link.Paced interval w) : r.state.link.Paced interval r.world := by
  cases h with
  | already => exact paced
  | nothing w' _ _ news => exact paced.keep news rfl rfl rfl
  | written w' _ _ _ news => exact paced.keep news rfl rfl rfl
  | lost reason w' _ _ _ _ news => exact paced.keep news rfl rfl rfl

theorem upheld_paced (interval : Nat) : Upheld fun t w => t.link.Paced interval w where
  note paced notes := paced.keep notes rfl rfl rfl
  send _ paced h := h.paced paced
  flush _ paced h := h.paced paced
  shutdown _ paced h := h.paced paced

/-! ### Runs under a clock that does not go backwards -/

theorem meets_act {t : Channel} (sound : t.Sound) (op : Op) (w : World) :
    w.Meets (DeliveryError.isTransientIn (act op t w).result) (act op t w).world := by
  cases op with
  | send line => exact (send_cases sound line w).behaves.meets
  | flush timeout => exact (flush_cases sound.linked timeout w).meets
  | shutdown => exact (shutdown_cases sound w).meets

namespace Upheld

variable {P : Channel → World → Prop} (upheld : Upheld P)

include upheld

variable {calls : List (Call Op)} {writerCalls : List (Call Writer.Op)} (target : Target)
  (minInterval size flushInterval : Nat) (s : Settings) (network : Network) (now wall : Int) (machine : HostAnswer)

/-- What holds at first, and goes on to hold while time passes, holds after every run of a channel whose clock does not
go backwards. -/
theorem channel_forward
    (start : P (.new target minInterval size flushInterval now) (.fresh network now wall machine))
    (later : ∀ {t : Channel} {w : World} {c : Call Op}, P t w → w.now ≤ c.now → P t (w.atCall c))
    (forward : Forward now calls) :
    let k := Course.run act (.new target minInterval size flushInterval now) (.fresh network now wall machine) calls
    P k.state k.world := by
  intro k
  suffices kept : k.state.Sound ∧ P k.state k.world from kept.2
  refine Course.forward_induction (fun k : Course DeliveryError Channel Op Unit => k.state.Sound ∧ P k.state k.world)
    ?_ ?_ ?_
  · exact ⟨sound_new target minInterval size flushInterval now, start⟩
  · intro k c passes ⟨sound, h⟩
    have sound' := upheld_sound.channel_act (w := k.world.atCall c) sound sound c.op
    exact ⟨⟨sound', upheld.channel_act sound (later h passes) c.op⟩, (meets_act sound c.op _).now⟩
  · exact forward

theorem writer_forward
    (start : P (Writer.ofSettings s (.fresh network now wall machine)).1.channel (.fresh network now wall machine))
    (later : ∀ {t : Channel} {w : World} {c : Call Writer.Op}, P t w → w.now ≤ c.now → P t (w.atCall c))
    (forward : Forward now writerCalls) :
    let k := Writer.course s network now wall machine writerCalls
    P k.state.channel k.world := by
  intro k
  suffices kept : k.state.channel.Sound ∧ P k.state.channel k.world from kept.2
  refine Course.forward_induction
    (fun k : Course WriteError Writer Writer.Op Writer.Answer => k.state.channel.Sound ∧ P k.state.channel k.world)
    ?_ ?_ ?_
  · exact ⟨sound_new _ _ _ _ _, upheld.note start (World.leads_log _ _ _ _)⟩
  · intro k c passes ⟨sound, h⟩
    have sound' := upheld_sound.writer_act (w := k.world.atCall c) sound sound c.op
    exact ⟨⟨sound', upheld.writer_act sound (later h passes) c.op⟩, (Writer.meets_act sound c.op _).now⟩
  · exact forward

end Upheld

end Channel

/-! ### Any run -/

namespace Link

/-- Dials lie at least the interval apart.  The link, if it is down and asked to come up at any later time, dials once
or puts the dial off, and it puts it off for exactly as long as the dial has to wait: asked again before that time it
puts the dial off to the same time, and asked then or afterwards it dials. -/
structure Throttled (interval : Nat) (l : Link) (w : World) : Prop where
  apart : w.dialTimes.Pairwise fun a b : Int => a + interval ≤ b
  connect : ∀ c : Call Unit, w.now ≤ c.now → l.up = false →
    let w := w.atCall c
    l.DialsOnce w ∨ ∃ wait, 0 < wait ∧ wait ≤ interval ∧ l.PutsOff w wait ∧
      ∀ c' : Call Unit, c.now ≤ c'.now →
        let later := (w.record (.postponed w.now wait)).atCall c'
        (c'.now < c.now + wait → ∃ rest : Nat, c'.now + rest = c.now + wait ∧ l.PutsOff later rest) ∧
          (c.now + wait ≤ c'.now → l.DialsOnce later)

theorem Paced.throttled {interval : Nat} {l : Link} {w : World} (h : Paced interval l w) : Throttled interval l w where
  apart := h.apart
  connect _ passes down := (h.later passes).dials_or_putsOff down

/-- Under a clock that does not go backwards, after any run of a link, of a channel and of a writer. -/
theorem dials_spaced (target : Target) (network : Network) (now wall : Int) (machine : HostAnswer) :
    (∀ (interval : Nat) (calls : List (Call Op)), Forward now calls →
      let k := Course.run act { target, minInterval := interval } (.fresh network now wall machine) calls
      Throttled interval k.state k.world) ∧
    (∀ (interval size flushInterval : Nat) (calls : List (Call Channel.Op)), Forward now calls →
      let t := Channel.new target interval size flushInterval now
      let k := Course.run Channel.act t (.fresh network now wall machine) calls
      Throttled interval k.state.link k.world) ∧
    ∀ (s : Settings) (calls : List (Call Writer.Op)), Forward now calls →
      let k := Writer.course s network now wall machine calls
      Throttled (Micros.ofMillis s.node.minReconnectInterval) k.state.channel.link k.world := by
  refine ⟨?_, ?_, ?_⟩
  · intro interval calls forward
    exact (paced_run target interval network now wall machine forward).throttled
  · intro interval size flushInterval calls forward
    have start := Paced.start target interval network now wall machine
    have paced := (Channel.upheld_paced interval).channel_forward target interval size flushInterval network now wall
      machine start (fun paced passes => paced.later passes) forward
    exact paced.throttled
  · intro s calls forward
    have start := Paced.start s.node.target (Micros.ofMillis s.node.minReconnectInterval) network now wall machine
    have paced := (Channel.upheld_paced _).writer_forward s network now wall machine start
      (fun paced passes => paced.later passes) forward
    exact paced.throttled

/-- The first dial fails, the next one comes too early, and the one after that makes a link, which is lost when it is
written to. -/
theorem dials_spaced_restored :
    let network : Network := ⟨fun n _ => if n = 0 then .refused "busy" else .linked, fun _ => .failed "reset"⟩
    let ops : List (Call Op) := [⟨.connect, 3, 0, .name []⟩, ⟨.connect, 5, 0, .name []⟩, ⟨.connect, 13, 0, .name []⟩,
      ⟨.write "x", 13, 0, .name []⟩]
    let sends : List (Call Channel.Op) :=
      [⟨.send "x\n", 3, 0, .name []⟩, ⟨.send "y\n", 13, 0, .name []⟩, ⟨.flush 0, 14, 0, .name []⟩]
    let writes : List (Call Writer.Op) := [⟨.property { host := "h", type := "t", time := 7 }, 2, 0, .name []⟩]
    let link := Course.run act { target := ⟨"h", 1, .tcp⟩, minInterval := 10 } (.fresh network 0 0 (.name [])) ops
    let channel := Course.run Channel.act (.new ⟨"h", 1, .tcp⟩ 10 99 0 0) (.fresh network 0 0 (.name [])) sends
    let settings : Settings := {}
    let writer := Writer.course settings network 0 0 (.name []) writes
    (Forward 0 ops ∧ Forward 0 sends ∧ Forward 0 writes) ∧
      (link.world.dialTimes = [3, 13] ∧ link.state.up = false) ∧ Throttled 10 link.state link.world ∧
      Throttled 10 channel.state.link channel.world ∧
      Throttled (Micros.ofMillis settings.node.minReconnectInterval) writer.state.channel.link writer.world := by
  intro network ops sends writes link channel settings writer
  have forward : Forward 0 ops ∧ Forward 0 sends ∧ Forward 0 writes := by decide
  have dials : link.world.dialTimes = [3, 13] ∧ link.state.up = false := by decide
  obtain ⟨ofLink, ofChannel, ofWriter⟩ := dials_spaced ⟨"h", 1, .tcp⟩ network 0 0 (.name [])
  exact ⟨forward, dials, ofLink 10 ops forward.1, ofChannel 10 99 0 sends forward.2.1,
    ofWriter settings writes forward.2.2⟩

end Link

end MetricFeed
