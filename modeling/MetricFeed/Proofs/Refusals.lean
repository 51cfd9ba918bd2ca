import MetricFeed.Proofs.Readiness

/-!
# What an error says about the next attempt

A line is refused for good by a channel that is closed or too small for it, and it stays so whatever happens to the
channel (`Channel.upheld_refuses`).  Any other error takes the link down and leaves nothing waiting
(`Channel.Sound.cleared`), so the line is taken once a dial may be made and succeeds (`Channel.Cleared.retry`).  The two
kinds of errors tell which it is (`Channel.refused_for_good_or_for_now`).
-/

namespace MetricFeed

/-- The last dial lies in the past, so the next one is due when the interval has passed since now. -/
theorem Link.Paced.due_of_waited {l : Link} {w : World} {interval : Nat} (h : l.Paced interval w) {later : Int}
    (waited : w.now + interval ≤ later) : l.wait? later = none := by
  cases known : l.lastDial with
  | none =>
    unfold wait?
    rw [known]
  | some last =>
    rw [wait?_eq_none_iff known, h.spacing]
    have recorded : w.dialTimes.getLast? = some last := h.last.symm.trans known
    have past : last ≤ w.now := h.past last (List.mem_of_getLast? recorded)
    unfold Micros.since
    omega

namespace Channel

variable {t : Channel} {line : String} {w : World} {r : Attempt DeliveryError Channel Unit} {e : DeliveryError}

/-! ### Errors that do not pass -/

/-- The channel never takes the line. -/
def Refuses (line : String) (t : Channel) : Prop :=
  t.closed = true ∨ t.batch.capacity ≤ line.utf8ByteSize

theorem Refuses.send (h : t.Refuses line) (w : World) : ∃ e, t.send line w = .fail e t w ∧ e.isTransient = false := by
  by_cases isClosed : t.closed = true
  · exact ⟨.closed, send_of_closed isClosed line w, rfl⟩
  · have long : t.batch.capacity ≤ line.utf8ByteSize := h.resolve_left isClosed
    have isOpen : t.closed = false := by simpa using isClosed
    exact ⟨_, send_of_long isOpen line long w, rfl⟩

/-- Nothing opens a channel again, or makes its batch larger. -/
theorem upheld_refuses (line : String) : Upheld fun t _ => t.Refuses line where
  note h _ := h
  send _ h sends := by
    unfold Refuses
    rw [sends.closed_eq, sends.capacity]
    exact h
  flush _ h flushes := by
    unfold Refuses
    rw [flushes.closed_eq, flushes.capacity]
    exact h
  shutdown _ _ ends := .inl ends.closed

/-! ### Errors that may pass -/

/-- The line could be taken but for the link, which is down, and nothing waits. -/
structure Cleared (line : String) (t : Channel) : Prop where
  isOpen : t.closed = false
  short : line.utf8ByteSize < t.batch.capacity
  down : t.link.up = false
  empty : t.batch.text = ""

/-- What is left of a channel by an error that may pass. -/
theorem Sound.cleared (sound : t.Sound) (failed : (t.send line w).result = .error e) (passing : e.isTransient = true) :
    (t.send line w).state.Cleared line := by
  have notRefused : ¬t.Refuses line := by
    intro refuses
    obtain ⟨e', eq, lasting⟩ := refuses.send w
    rw [eq] at failed
    cases failed
    rw [passing] at lasting
    cases lasting
  have short : line.utf8ByteSize < t.batch.capacity := Nat.lt_of_not_le fun long => notRefused (.inr long)
  have sends := send_cases sound line w
  generalize t.send line w = r at failed sends
  cases sends with
  | closed isClosed => exact absurd (.inl isClosed) notRefused
  | tooLong _ long => exact absurd (.inr long) notRefused
  | throttled wait isOpen down => exact ⟨isOpen, short, down, sound.empty_of_down down⟩
  | missed e outcome outage w' isOpen down => exact ⟨isOpen, short, down, sound.empty_of_down down⟩
  | lost reason w' isOpen => exact ⟨isOpen, short, rfl, rfl⟩
  | appended => cases failed
  | begun => cases failed
  | moved => cases failed

/-- A dial that is due and succeeds is all that was missing. -/
theorem Cleared.retry (h : t.Cleared line) (due : t.link.wait? w.now = none)
    (linked : w.network.dial w.dials t.link.target = .linked) :
    (t.send line w).result = .ok () ∧ (t.send line w).state.batch.text = line := by
  have sound : t.Sound :=
    ⟨fun full => absurd h.empty full, by simp [Batch.size, h.empty], fun _ => ⟨h.empty, h.down⟩⟩
  have notUp : t.link.up = true → False := by simp [h.down]
  have sends := send_cases sound line w
  generalize t.send line w = r at sends
  cases sends with
  | begun => exact ⟨rfl, rfl⟩
  | closed isClosed => simp [h.isOpen] at isClosed
  | tooLong _ long => exact absurd h.short (Nat.not_lt.2 long)
  | throttled wait _ _ early => simp [due] at early
  | missed e outcome outage w' _ _ _ given failure =>
    rw [linked] at given
    subst given
    cases failure
  | lost reason w' _ _ up => exact (notUp up).elim
  | appended opened w' _ up => exact (notUp up).elim
  | moved w' _ _ up => exact (notUp up).elim

/-! ### What the error tells -/

/-- After any run of a channel under a clock that does not go backwards, let the next line be refused.  If the error
does not pass, nothing was changed, and the line meets such an error again at every later point of every run that goes
on from there.  If it may pass, the line is taken when it is sent next, provided that the interval between dials has
gone by and the next dial succeeds; and then it is all that waits. -/
theorem refused_for_good_or_for_now (target : Target) (minInterval size flushInterval : Nat) (network : Network)
    (now wall : Int) (machine : HostAnswer) {calls : List (Call Op)} (forward : Forward now calls) (line : String)
    (now' wall' : Int) (machine' : HostAnswer) (e : DeliveryError) :
    let start := Channel.new target minInterval size flushInterval now
    let attempt : Call Op := ⟨.send line, now', wall', machine'⟩
    let k := Course.run act start (.fresh network now wall machine) calls
    let r := k.state.send line (k.world.atCall attempt)
    k.world.now ≤ now' → r.result = .error e →
      (e.isTransient = false →
        (r.state = k.state ∧ r.world = k.world.atCall attempt) ∧
        ∀ (later : List (Call Op)) (c : Call Unit),
          let k' := Course.run act start (.fresh network now wall machine) (calls ++ attempt :: later)
          ∃ e', (k'.state.send line (k'.world.atCall c)).result = .error e' ∧ e'.isTransient = false) ∧
      (e.isTransient = true → ∀ c : Call Unit, now' + minInterval ≤ c.now →
        let w := r.world.atCall c
        w.network.dial w.dials r.state.link.target = .linked →
          (r.state.send line w).result = .ok () ∧ (r.state.send line w).state.batch.text = line) := by
  intro start attempt k r passes failed
  obtain ⟨account, -⟩ := accounted_run target minInterval size flushInterval network now wall machine calls
  have sound : k.state.Sound := account.sound
  have sends : Sends k.state line (k.world.atCall attempt) r := send_cases sound line _
  constructor
  · intro lasting
    obtain ⟨refuses, state, world⟩ := sends.lasting failed lasting
    refine ⟨⟨state, world⟩, fun later c => ?_⟩
    intro k'
    -- the run up to the error, from where the refusal is kept up
    let stopped := Course.run act start (.fresh network now wall machine) (calls ++ [attempt])
    have last : stopped = k.next act attempt := Course.run_concat ..
    have split : k' = Course.run act start (.fresh network now wall machine) ((calls ++ [attempt]) ++ later) := by
      rw [List.append_assoc, List.singleton_append]
    have kept : k'.state.Sound ∧ k'.state.Refuses line := by
      rw [split]
      refine Course.run_append_induction
        (fun k : Course DeliveryError Channel Op Unit => k.state.Sound ∧ k.state.Refuses line) _ later ?_ ?_
      · have same : stopped.state = k.state := by
          rw [last]
          exact state
        show stopped.state.Sound ∧ stopped.state.Refuses line
        rw [same]
        exact ⟨sound, refuses⟩
      · intro k₁ c₁ ⟨sound₁, refuses₁⟩
        have sound₂ := upheld_sound.channel_act (w := k₁.world.atCall c₁) sound₁ sound₁ c₁.op
        exact ⟨sound₂, (upheld_refuses line).channel_act (w := k₁.world.atCall c₁) sound₁ refuses₁ c₁.op⟩
    obtain ⟨e', eq, lasting'⟩ := kept.2.send (k'.world.atCall c)
    exact ⟨e', by rw [eq]; rfl, lasting'⟩
  · intro passing c waited w linked
    have cleared : r.state.Cleared line := sound.cleared failed passing
    have paced : k.state.link.Paced minInterval k.world :=
      (upheld_paced minInterval).channel_forward target minInterval size flushInterval network now wall machine
        (.start ..) (fun paced passes => paced.later passes) forward
    have paced' : r.state.link.Paced minInterval r.world := sends.paced (paced.later passes)
    have stood : r.world.now = now' := by
      have meets := sends.behaves.meets
      exact meets.now
    have due : r.state.link.wait? w.now = none := by
      apply paced'.due_of_waited
      rw [stood]
      exact waited
    exact cleared.retry due linked

/-- A line that is too long, also after a shutdown, and a line that comes when the link breaks. -/
theorem refused_for_good_or_for_now_broken :
    let network : Network := ⟨fun _ _ => .linked, fun _ => .failed "reset"⟩
    let start := Channel.new ⟨"h", 1, .tcp⟩ 10 9 0 0
    let calls : List (Call Op) := [⟨.send "a\n", 3, 3, .name []⟩]
    let long : Call Op := ⟨.send "12345678\n", 5, 5, .name []⟩
    let short : Call Op := ⟨.send "b\n", 5, 5, .name []⟩
    let later : Call Unit := ⟨(), 15, 15, .name []⟩
    let k := Course.run act start (.fresh network 0 0 (.name [])) calls
    let after := Course.run act start (.fresh network 0 0 (.name [])) (calls ++ long :: [⟨.shutdown, 2, 2, .name []⟩])
    let refused := k.state.send "12345678\n" (k.world.atCall long)
    let broken := k.state.send "b\n" (k.world.atCall short)
    let retried := broken.state.send "b\n" (broken.world.atCall later)
    (Forward 0 calls ∧ k.world.now ≤ 5) ∧
      (refused.result = .error (.lineTooLong 9 9) ∧
        ∃ e', (after.state.send "12345678\n" (after.world.atCall later)).result = .error e' ∧ e'.isTransient = false) ∧
      broken.result = .error (.broken ⟨"h", 1, .tcp⟩ "reset") ∧
      retried.result = .ok () ∧ retried.state.batch.text = "b\n" := by
  intro network start calls long short later k after refused broken retried
  have forward : Forward 0 calls := by decide
  have passes : k.world.now ≤ 5 := by decide
  have tooLong : refused.result = .error (.lineTooLong 9 9) := by decide
  have lost : broken.result = .error (.broken ⟨"h", 1, .tcp⟩ "reset") := by decide
  have law := refused_for_good_or_for_now ⟨"h", 1, .tcp⟩ 10 9 0 network 0 0 (.name []) forward
  obtain ⟨-, lasting⟩ := (law "12345678\n" 5 5 (.name []) _ passes tooLong).1 rfl
  obtain ⟨taken, alone⟩ := (law "b\n" 5 5 (.name []) _ passes lost).2 rfl later (by decide) (by decide)
  refine ⟨⟨forward, passes⟩, ⟨tooLong, lasting _ later⟩, lost, taken, ?_⟩
  simp only [retried, broken, k, start, short]
  exact alone

end Channel

end MetricFeed
