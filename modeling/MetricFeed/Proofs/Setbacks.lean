import MetricFeed.Proofs.Upkeep

/-!
# Setbacks

A setback is a dial or a write that fails, or a dial that is put off.  An operation of a writer returns an error that
may pass exactly when it met a setback, a setback ends its traffic, and it dials at most once (`Orderly`).  So a writer
that is shut down and never returned such an error has delivered every line it accepted.
-/

namespace MetricFeed

/-! ### Orderly traffic -/

/-- How the traffic of an operation, newest first, stands to the error it returns: the operation is stopped by a
setback and by nothing else, and there is no traffic after a setback. -/
structure Orderly (stopped : Bool) (news : List Event) : Prop where
  stopped_iff : stopped = true ↔ ∃ e ∈ news, e.isSetback = true
  last : ∀ e ∈ news.tail, e.isSetback = false

namespace Orderly

theorem calm {news : List Event} (h : ∀ e ∈ news, e.isSetback = false) : Orderly false news where
  stopped_iff := by
    constructor
    · intro hf
      cases hf
    · rintro ⟨e, he, hs⟩
      rw [h e he] at hs
      cases hs
  last e he := h e (List.mem_of_mem_tail he)

theorem stopped {e : Event} (h : e.isSetback = true) : Orderly true [e] where
  stopped_iff := ⟨fun _ => ⟨e, List.mem_singleton.2 rfl, h⟩, fun _ => rfl⟩
  last e he := by cases he

theorem nil : Orderly false [] :=
  calm fun e he => by cases he

/-- After traffic without a setback. -/
theorem append {stopped : Bool} {a b : List Event} (ha : Orderly false a) (hb : Orderly stopped b) :
    Orderly stopped (b ++ a) := by
  have calm : ∀ e ∈ a, e.isSetback = false := by
    intro e he
    cases h : e.isSetback with
    | false => rfl
    | true => exact absurd (ha.stopped_iff.2 ⟨e, he, h⟩) (by simp)
  constructor
  · rw [hb.stopped_iff]
    constructor
    · rintro ⟨e, he, hs⟩
      exact ⟨e, List.mem_append_left _ he, hs⟩
    · rintro ⟨e, he, hs⟩
      rcases List.mem_append.1 he with he | he
      · exact ⟨e, he, hs⟩
      · rw [calm e he] at hs
        cases hs
  · intro e he
    cases b with
    | nil => exact ha.last e he
    | cons _ b =>
      rcases List.mem_append.1 he with he | he
      · exact hb.last e he
      · exact calm e he

/-- Blocks written in an operation that is not stopped are delivered. -/
theorem delivered {news : List Event} (h : Orderly false news) :
    ∀ b ∈ news.filterMap Event.handed?, b.2 = .delivered := by
  intro b hb
  obtain ⟨e, he, heq⟩ := List.mem_filterMap.1 hb
  cases e with
  | wrote block outcome =>
    cases heq
    cases outcome with
    | delivered => rfl
    | failed reason => exact absurd (h.stopped_iff.2 ⟨_, he, rfl⟩) (by simp)
  | _ => cases heq

end Orderly

/-! ### Channels -/

namespace Channel

/-- One while the link is up: with it, a channel has no dial to make. -/
def links (t : Channel) : Nat := t.link.up.toNat

/-- The second world is the first after orderly traffic, in which at most one link is made; nothing but a setback
takes a link down. -/
def Behaves (t : Channel) (w : World) (stopped : Bool) (t' : Channel) (w' : World) : Prop :=
  ∃ news, w.Leads news w' ∧ Orderly stopped news ∧
    news.countP Event.isDial + t.links ≤ if stopped then 1 else t'.links

section

variable {t t₁ t₂ : Channel} {w w₁ w₂ : World}

theorem links_le (t : Channel) : t.links ≤ 1 :=
  Bool.toNat_le _

theorem Behaves.trans {stopped : Bool} (h₁ : Behaves t w false t₁ w₁) (h₂ : Behaves t₁ w₁ stopped t₂ w₂) :
    Behaves t w stopped t₂ w₂ := by
  obtain ⟨news₁, leads₁, orderly₁, dials₁⟩ := h₁
  obtain ⟨news₂, leads₂, orderly₂, dials₂⟩ := h₂
  refine ⟨news₂ ++ news₁, leads₁.trans leads₂, orderly₁.append orderly₂, ?_⟩
  -- the links made in the first part are up when the second one starts
  rw [List.countP_append]
  simp only [Bool.false_eq_true, if_false] at dials₁
  omega

theorem Behaves.note {stopped : Bool} (h : Behaves t w stopped t₁ w₁) (notes : w₁.Leads [] w₂) :
    Behaves t w stopped t₁ w₂ := by
  obtain ⟨news, leads, orderly, dials⟩ := h
  exact ⟨news, leads.trans notes, orderly, dials⟩

theorem behaves_refl (t : Channel) (w : World) : Behaves t w false t w :=
  ⟨[], .refl w, .nil, Nat.le_of_eq (Nat.zero_add _)⟩

/-- All that happened was a setback. -/
theorem behaves_stopped {e : Event} (leads : w.Leads [e] w₁) (setback : e.isSetback = true)
    (dials : [e].countP Event.isDial + t.links ≤ 1) : Behaves t w true t₁ w₁ :=
  ⟨[e], leads, .stopped setback, dials⟩

theorem Sends.behaves {line : String} {r : Attempt DeliveryError Channel Unit} (h : Sends t line w r) :
    Behaves t w (DeliveryError.isTransientIn r.result) r.state r.world := by
  cases h with
  | closed => exact behaves_refl t w
  | tooLong => exact behaves_refl t w
  | throttled wait isOpen down =>
    have links : t.links = 0 := by rw [Channel.links, down]; rfl
    exact behaves_stopped (w.leads_record rfl) rfl (by rw [links]; exact Nat.zero_le 1)
  | missed e outcome outage w' isOpen down due given failure news =>
    obtain ⟨transient, notLinked⟩ := Link.isTransient_of_dialError? failure
    have links : t.links = 0 := by rw [Channel.links, down]; rfl
    rw [show DeliveryError.isTransientIn (Attempt.fail e _ _ : Attempt DeliveryError Channel Unit).result = true
      from transient]
    refine behaves_stopped news ?_ (by rw [links]; exact Nat.le_refl 1)
    cases outcome with
    | linked => exact absurd rfl notLinked
    | refused reason => rfl
    | unresolved reason => rfl
  | lost reason w' isOpen full up outcome news =>
    exact behaves_stopped news rfl (by simpa [List.countP_cons, Event.isDial] using t.links_le)
  | appended opened w' isOpen up fits age news =>
    refine ⟨_, news, .calm (by simp [Event.isSetback]), ?_⟩
    simp [Event.isDial, DeliveryError.isTransientIn, Attempt.done, Channel.links]
  | begun outage w' isOpen short down due empty news =>
    refine ⟨_, news, .calm (by simp [Event.isSetback]), ?_⟩
    simp [Event.isDial, DeliveryError.isTransientIn, Attempt.done, Channel.links, down, Link.dialled]
  | moved w' isOpen short up full news =>
    refine ⟨_, news, .calm (by simp [Event.isSetback]), ?_⟩
    simp [Event.isDial, DeliveryError.isTransientIn, Attempt.done, Channel.links, up, Link.carried]

/-- The setback of a sequence of lines is that of its last line. -/
theorem Fed.behaves {fed : List (String × Except DeliveryError Unit)} (h : Fed t w fed t₁ w₁) (ht : t.Sound) :
    t₁.Sound ∧ Behaves t w (isStopped fed) t₁ w₁ := by
  induction h with
  | start => exact ⟨ht, behaves_refl t w⟩
  | note _ notes ih => exact ⟨ih.1, ih.2.note notes⟩
  | @send fed t' w' _ calm line ih =>
    obtain ⟨sound, behaves⟩ := ih
    have sends := send_cases sound line w'
    rw [isStopped_eq_false.2 calm] at behaves
    have stopped : isStopped (fed ++ [(line, (t'.send line w').result)]) =
        DeliveryError.isTransientIn (t'.send line w').result := by
      rw [isStopped_append, isStopped_eq_false.2 calm, Bool.false_or, isStopped_singleton]
    rw [stopped]
    exact ⟨sends.sound sound, behaves.trans sends.behaves⟩

end

end Channel

/-! ### Operations of a writer -/

/-- The second world is the first after orderly traffic with at most one dial. -/
def World.Meets (w : World) (stopped : Bool) (w' : World) : Prop :=
  ∃ news, w.Leads news w' ∧ Orderly stopped news ∧ news.countP Event.isDial ≤ 1

theorem World.Meets.note {w w₁ w₂ : World} {stopped : Bool} (h : w.Meets stopped w₁) (notes : w₁.Leads [] w₂) :
    w.Meets stopped w₂ := by
  obtain ⟨news, leads, orderly, dials⟩ := h
  exact ⟨news, leads.trans notes, orderly, dials⟩

/-- Blocks written without a setback are delivered. -/
theorem World.Meets.delivered {w w' : World} (h : w.Meets false w') (hw : ∀ b ∈ w.handed, b.2 = .delivered) :
    ∀ b ∈ w'.handed, b.2 = .delivered := by
  obtain ⟨news, leads, orderly, -⟩ := h
  intro b hb
  rw [leads.handed] at hb
  rcases List.mem_append.1 hb with hb | hb
  · exact hw b hb
  · exact orderly.delivered b (List.mem_reverse.1 hb)

namespace Channel

variable {t t' : Channel} {w w' : World} {r : Attempt DeliveryError Channel Unit}

theorem Behaves.meets {stopped : Bool} (h : Behaves t w stopped t' w') : w.Meets stopped w' := by
  obtain ⟨news, leads, orderly, dials⟩ := h
  refine ⟨news, leads, orderly, ?_⟩
  have := t'.links_le
  split at dials <;> omega

theorem Flushes.meets {timeout : Nat} (h : Flushes t timeout w r) :
    w.Meets (DeliveryError.isTransientIn r.result) r.world := by
  cases h with
  | waiting => exact ⟨[], .refl w, .nil, Nat.zero_le 1⟩
  | nothing => exact ⟨[], .refl w, .nil, Nat.zero_le 1⟩
  | written w' due full up news => exact ⟨_, news, .calm (by simp [Event.isSetback]), Nat.zero_le 1⟩
  | lost reason w' due full up outcome news => exact ⟨_, news, .stopped rfl, Nat.zero_le 1⟩

theorem Ends.meets (h : Ends t w r) : w.Meets (DeliveryError.isTransientIn r.result) r.world := by
  cases h with
  | already => exact ⟨[], .refl w, .nil, Nat.zero_le 1⟩
  | nothing w' isOpen empty news => exact ⟨[], news, .nil, Nat.zero_le 1⟩
  | written w' isOpen full up news => exact ⟨_, news, .calm (by simp [Event.isSetback]), Nat.zero_le 1⟩
  | lost reason w' isOpen full up outcome news => exact ⟨_, news, .stopped rfl, Nat.zero_le 1⟩

/-- After a shutdown nothing waits. -/
theorem Ends.empty (h : Ends t w r) (ht : t.Sound) : r.state.batch.text = "" := by
  cases h with
  | already isClosed => exact (ht.closed isClosed).1
  | nothing w' isOpen empty => exact empty
  | written => rfl
  | lost => rfl

end Channel

namespace Writer

/-- One operation: its error may pass exactly when it met a setback, and there its traffic ends. -/
theorem meets_act {x : Writer} (hx : x.channel.Sound) (op : Op) (w : World) :
    w.Meets (WriteError.isTransientIn (act op x w).result) (act op x w).world := by
  cases act_cases op x w with
  | sends relays =>
    obtain ⟨fed, hf, ht⟩ := relays
    rw [ht]
    exact (hf.behaves hx).2.meets
  | flushes timeout mirrors =>
    rw [mirrors.result]
    exact (Channel.flush_cases hx.linked timeout w).meets.note mirrors.notes
  | ends mirrors =>
    rw [mirrors.result]
    exact (Channel.shutdown_cases hx w).meets.note mirrors.notes

end Writer

/-! ### Runs of a writer -/

/-- What was handed to a link without a failure was delivered. -/
theorem World.deliveredBlocks_of_handed {w : World} (h : ∀ b ∈ w.handed, b.2 = .delivered) :
    w.deliveredBlocks = w.handed.map Prod.fst := by
  unfold handed at h ⊢
  unfold deliveredBlocks
  rw [List.map_reverse]
  congr 1
  simp only [List.mem_reverse] at h
  generalize w.history = events at h ⊢
  induction events with
  | nil => rfl
  | cons e es ih =>
    cases e with
    | wrote block outcome =>
      have outcome_eq : outcome = .delivered := h (block, outcome) List.mem_cons_self
      subst outcome_eq
      exact congrArg (block :: ·) (ih fun b hb => h b (List.mem_cons_of_mem _ hb))
    | _ => exact ih h

namespace Writer

/-- The account of the channel is right, and unless an error that may pass was returned, every block handed to a link
was delivered. -/
structure Faithful (k : Course WriteError Writer Op Answer) : Prop where
  account : k.state.channel.Accounted k.world
  delivered : (∀ a ∈ k.results, WriteError.isTransientIn a.2 = false) → ∀ b ∈ k.world.handed, b.2 = .delivered

theorem Faithful.next {k : Course WriteError Writer Op Answer} (h : Faithful k) (c : Call Op) :
    Faithful (k.next act c) where
  account := by
    have account : k.state.channel.Accounted (k.world.atCall c) := h.account.leads rfl
    exact Channel.upheld_accounted.writer_act account.sound account c.op
  delivered := by
    intro calm
    have before : ∀ a ∈ k.results, WriteError.isTransientIn a.2 = false :=
      fun a ha => calm a (List.mem_append_left _ ha)
    have now : WriteError.isTransientIn (act c.op k.state (k.world.atCall c)).result = false :=
      calm (c.op, _) (List.mem_append_right _ (List.mem_singleton.2 rfl))
    have meets := meets_act h.account.sound c.op (k.world.atCall c)
    rw [now] at meets
    exact meets.delivered (h.delivered before)

theorem faithful_course (s : Settings) (network : Network) (now wall : Int) (machine : HostAnswer)
    (calls : List (Call Op)) : Faithful (course s network now wall machine calls) := by
  refine Course.run_induction Faithful ⟨?_, fun _ b hb => by cases hb⟩ (fun k c h => h.next c) calls
  exact (Channel.Accounted.start _ _ _ _ network now wall machine).note (World.leads_log _ _ _ _)

/-- The lines that a run accepted fall into one group for each block, and a last group that waits. -/
theorem grouped_course (s : Settings) (network : Network) (now wall : Int) (machine : HostAnswer)
    (calls : List (Call Op)) :
    let k := course s network now wall machine calls
    Grouped k.world.acceptedLines k.world.handed k.state.channel.batch.text :=
  (faithful_course s network now wall machine calls).account.ledger.grouped

/-- The lines that a run accepted are those that its channel took: the run comes to operations of the channel, and the
lines are those whose `send` succeeded. -/
theorem accepted_of_course (s : Settings) (network : Network) (now wall : Int) (machine : HostAnswer)
    (calls : List (Call Op)) :
    let start := Writer.ofSettings s (.fresh network now wall machine)
    let k := course s network now wall machine calls
    ∃ performed, start.1.channel.Performs start.2 performed k.state.channel k.world ∧
      k.world.acceptedLines = Channel.sentLines performed := by
  intro start k
  obtain ⟨performed, performs⟩ := performs_course s network now wall machine calls
  have sound : start.1.channel.Sound := (faithful_course s network now wall machine []).account.sound
  exact ⟨performed, performs, (performs.acceptedLines sound).2⟩

/-- The lines a run accepts are those whose `send` succeeded.  At every point of a run, an operation returns an error
that may pass exactly when it meets a setback; a setback is the last of its traffic, and it dials at most once.  A run
that ends with a shutdown, and in which no such error was returned, has delivered the lines it accepted. -/
theorem transient_iff_setback (s : Settings) (network : Network) (now wall : Int) (machine : HostAnswer)
    (calls : List (Call Op)) :
    let start := Writer.ofSettings s (.fresh network now wall machine)
    let k := course s network now wall machine calls
    (∃ performed, start.1.channel.Performs start.2 performed k.state.channel k.world ∧
      k.world.acceptedLines = Channel.sentLines performed) ∧
    (∀ c : Call Op,
      let r := act c.op k.state (k.world.atCall c)
      ∃ news, r.world.traffic = news ++ k.world.traffic ∧
        (WriteError.isTransientIn r.result = true ↔ ∃ e ∈ news, e.isSetback = true) ∧
        (∀ e ∈ news.tail, e.isSetback = false) ∧ news.countP Event.isDial ≤ 1) ∧
    ∀ c : Call Op, c.op = .shutdown →
      let k' := k.next act c
      (∀ a ∈ k'.results, WriteError.isTransientIn a.2 = false) →
        String.join k'.world.deliveredBlocks = String.join k'.world.acceptedLines := by
  intro start k
  have faithful := faithful_course s network now wall machine calls
  refine ⟨accepted_of_course s network now wall machine calls, ?_, ?_⟩
  · intro c r
    obtain ⟨news, leads, orderly, dials⟩ := meets_act faithful.account.sound c.op (k.world.atCall c)
    exact ⟨news, leads.traffic, orderly.stopped_iff, orderly.last, dials⟩
  · intro c hc k' calm
    have faithful' : Faithful k' := faithful.next c
    have empty : k'.state.channel.batch.text = "" := by
      have mirrors := k.state.mirrors_act_shutdown (k.world.atCall c)
      show (act c.op k.state (k.world.atCall c)).state.channel.batch.text = ""
      rw [hc, mirrors.channel]
      exact (Channel.shutdown_cases faithful.account.sound _).empty faithful.account.sound
    have joined := faithful'.account.ledger.grouped.join_eq
    rw [empty, String.append_empty] at joined
    rw [World.deliveredBlocks_of_handed (faithful'.delivered calm)]
    exact joined.symm

/-- A property that is sent, and the shutdown that delivers it. -/
theorem transient_iff_setback_ideal :
    let k := course {} .ideal 0 0 (.name []) [⟨.property { host := "h", type := "t", time := 7 }, 2, 2, .name []⟩]
    let k' := k.next act ⟨.shutdown, 5, 5, .name []⟩
    (∀ a ∈ k'.results, WriteError.isTransientIn a.2 = false) ∧
      String.join k'.world.deliveredBlocks = String.join k'.world.acceptedLines := by
  intro k k'
  have calm : ∀ a ∈ k'.results, WriteError.isTransientIn a.2 = false := by decide
  exact ⟨calm, (transient_iff_setback {} .ideal 0 0 (.name [])
    [⟨.property { host := "h", type := "t", time := 7 }, 2, 2, .name []⟩]).2.2 ⟨.shutdown, 5, 5, .name []⟩ rfl calm⟩

end Writer

end MetricFeed
