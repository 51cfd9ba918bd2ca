import MetricFeed.Proofs.Pacing
import MetricFeed.Proofs.Tallies

/-!
# The pace of properties

A writer remembers when it last had a property line accepted (`Writer.Recalls`): every operation that has one accepted
notes the time, and no other operation does, whatever else it has accepted and however it fails (`Writer.marks_act`).
So a property that is sent if one is due comes at least the property interval after the one before, an attempt that
fails puts nothing off, and nothing at all happens while none is due (`Writer.properties_paced`).
-/

namespace MetricFeed

namespace World

/-- The times at which property lines were accepted, oldest first. -/
def propertyTimes (w : World) : List Int :=
  (w.acceptances.filter fun a => Command.isPropertyLine a.2).map Prod.fst

/-! ### Lines are accepted at the time of the operation -/

/-- The second world comes at the same moment as the first, and what was accepted in between was accepted then. -/
structure Accepts (w w' : World) : Prop where
  now : w'.now = w.now
  lines : ∃ lines : List String, w'.acceptances = w.acceptances ++ lines.map fun line => (w.now, line)

namespace Accepts

variable {w w' w'' : World}

theorem refl (w : World) : w.Accepts w :=
  ⟨rfl, [], (List.append_nil _).symm⟩

theorem calm (h : w.Accepts w') {news : List Event} (leads : w'.Leads news w'')
    (none : news.filterMap Event.acceptance? = []) : w.Accepts w'' := by
  obtain ⟨now, lines, accepted⟩ := h
  refine ⟨leads.now.trans now, lines, ?_⟩
  rw [leads.acceptances, none, List.reverse_nil, List.append_nil]
  exact accepted

theorem one (h : w.Accepts w') {news : List Event} {line : String} (leads : w'.Leads news w'')
    (one : news.filterMap Event.acceptance? = [(w'.now, line)]) : w.Accepts w'' := by
  obtain ⟨now, lines, accepted⟩ := h
  refine ⟨leads.now.trans now, lines ++ [line], ?_⟩
  rw [leads.acceptances, one, List.reverse_singleton, accepted, now, List.map_append, List.map_singleton,
    List.append_assoc]

/-- The lines accepted, with the time. -/
theorem acceptances_eq (h : w.Accepts w') {lines : List String}
    (accepted : w'.acceptedLines = w.acceptedLines ++ lines) :
    w'.acceptances = w.acceptances ++ lines.map fun line => (w.now, line) := by
  obtain ⟨-, lines', stamped⟩ := h
  have unstamped : (lines'.map fun line => (w.now, line)).map Prod.snd = lines' := by
    rw [List.map_map]
    exact List.map_id _
  have same : lines' = lines := by
    rw [← map_snd_acceptances, ← map_snd_acceptances, stamped, List.map_append, unstamped] at accepted
    exact List.append_cancel_left accepted
  rw [← same]
  exact stamped

theorem propertyTimes_of_none (h : w.Accepts w') {lines : List String}
    (accepted : w'.acceptedLines = w.acceptedLines ++ lines) (none : lines.countP Command.isPropertyLine = 0) :
    w'.propertyTimes = w.propertyTimes := by
  have noProperty : (lines.map fun line => (w.now, line)).filter (fun a => Command.isPropertyLine a.2) = [] := by
    rw [List.filter_eq_nil_iff]
    intro a ha
    obtain ⟨line, hline, rfl⟩ := List.mem_map.1 ha
    exact List.countP_eq_zero.1 none line hline
  unfold propertyTimes
  rw [h.acceptances_eq accepted, List.filter_append, noProperty, List.append_nil]

theorem propertyTimes_of_one (h : w.Accepts w') {line : String}
    (accepted : w'.acceptedLines = w.acceptedLines ++ [line])
    (isProperty : Command.isPropertyLine line = true) : w'.propertyTimes = w.propertyTimes ++ [w.now] := by
  have kept : [(w.now, line)].filter (fun a => Command.isPropertyLine a.2) = [(w.now, line)] :=
    List.filter_eq_self.2 (by simpa using isProperty)
  unfold propertyTimes
  rw [h.acceptances_eq accepted, List.map_singleton, List.filter_append, kept, List.map_append, List.map_singleton]

end Accepts

end World

theorem Channel.upheld_accepts (w : World) : Channel.Upheld fun _ w' => w.Accepts w' where
  note h notes := h.calm notes rfl
  send _ h sends := by
    cases sends with
    | closed => exact h
    | tooLong => exact h
    | throttled wait => exact h.calm (World.leads_record _ rfl) rfl
    | missed e outcome outage w' _ _ _ _ _ news => exact h.calm news rfl
    | lost reason w' _ _ _ _ news => exact h.calm news rfl
    | appended opened w' _ _ _ _ news => exact h.one news rfl
    | begun outage w' _ _ _ _ _ news => exact h.one news rfl
    | moved w' _ _ _ _ news => exact h.one news rfl
  flush _ h flushes := by
    cases flushes with
    | waiting => exact h
    | nothing => exact h
    | written w' _ _ _ news => exact h.calm news rfl
    | lost reason w' _ _ _ _ news => exact h.calm news rfl
  shutdown _ h ends := by
    cases ends with
    | already => exact h
    | nothing w' _ _ news => exact h.calm news rfl
    | written w' _ _ _ news => exact h.calm news rfl
    | lost reason w' _ _ _ _ news => exact h.calm news rfl

namespace Writer

variable {x x' : Writer} {w w' : World}

theorem accepts_act (sound : x.channel.Sound) (op : Op) (w : World) : w.Accepts (act op x w).world :=
  (Channel.upheld_accepts w).writer_act sound (.refl w) op

/-! ### Which operations have a property line accepted -/

/-- A property was sent. -/
def wasPosted : Op × Except WriteError Answer → Bool
  | (.property _, .ok _) => true
  | (.propertyIfDue _, .ok (.sent due)) => due
  | _ => false

/-- The operation, with this result, had a property line accepted if it sent a property, and noted the time then. -/
structure Marks (x : Writer) (w : World) (a : Op × Except WriteError Answer) (x' : Writer) (w' : World) : Prop where
  last : x'.lastProperty = if wasPosted a then some w.now else x.lastProperty
  times : w'.propertyTimes = w.propertyTimes ++ if wasPosted a then [w.now] else []

theorem marks_of_none (accepts : w.Accepts w') {a : Op × Except WriteError Answer} (idle : wasPosted a = false)
    {lines : List String} (accepted : w'.acceptedLines = w.acceptedLines ++ lines)
    (none : lines.countP Command.isPropertyLine = 0) (last : x'.lastProperty = x.lastProperty) :
    Marks x w a x' w' := by
  constructor
  · rw [idle]
    exact last
  · rw [idle, accepts.propertyTimes_of_none accepted none]
    exact (List.append_nil _).symm

theorem marks_of_same (accepts : w.Accepts w') {a : Op × Except WriteError Answer} (idle : wasPosted a = false)
    (same : w'.acceptedLines = w.acceptedLines) (last : x'.lastProperty = x.lastProperty) : Marks x w a x' w' := by
  have accepted : w'.acceptedLines = w.acceptedLines ++ [] := same.trans (List.append_nil _).symm
  exact marks_of_none accepts idle accepted rfl last

theorem marks_of_one (accepts : w.Accepts w') {a : Op × Except WriteError Answer} (posted : wasPosted a = true)
    {line : String} (accepted : w'.acceptedLines = w.acceptedLines ++ [line])
    (isProperty : Command.isPropertyLine line = true) (last : x'.lastProperty = some w.now) : Marks x w a x' w' := by
  constructor
  · rw [posted]
    exact last
  · rw [posted]
    exact accepts.propertyTimes_of_one accepted isProperty

/-- What sending a property can come to. -/
inductive Posts (x : Writer) (w : World) : Attempt WriteError Writer Unit → Prop where
  | failed (e : WriteError) (x' : Writer) (w' : World) (last : x'.lastProperty = x.lastProperty)
    (accepted : w'.acceptedLines = w.acceptedLines) : Posts x w (.fail e x' w')
  | sent (line : String) (x' : Writer) (w' : World) (isProperty : Command.isPropertyLine line = true)
    (last : x'.lastProperty = some w'.now) (accepted : w'.acceptedLines = w.acceptedLines ++ [line]) :
    Posts x w (.done () x' w')

theorem sendProperty_cases (sound : x.channel.Sound) {c : Command} {line : String} (rendered : c.line = .ok line)
    (isProperty : c.isProperty = true) (entity : String) (w : World) : Posts x w (x.sendProperty entity line w) := by
  have hands := sendLine_cases sound rendered w
  unfold sendProperty
  generalize x.sendLine line w = r at hands
  cases hands with
  | taken line channel w' rendered _ accepted =>
    have begins : Command.isPropertyLine line = true := (Command.isPropertyLine_of_line rendered).trans isProperty
    exact .sent line _ _ begins rfl accepted
  | refused e channel w' _ accepted => exact .failed e _ _ rfl accepted

theorem writeProperty_cases (sound : x.channel.Sound) (p : Property) (w : World) : Posts x w (x.writeProperty p w) := by
  unfold writeProperty
  split
  · exact .failed _ x w rfl rfl
  · rename_i entity _
    split
    · exact .failed _ x w rfl rfl
    · rename_i line rendered
      exact sendProperty_cases sound rendered rfl entity w

theorem marks_property (sound : x.channel.Sound) (p : Property) (w : World) :
    Marks x w (.property p, (act (.property p) x w).result) (act (.property p) x w).state
      (act (.property p) x w).world := by
  have accepts := accepts_act sound (.property p) w
  rw [act_property_eq] at accepts ⊢
  have posts := writeProperty_cases sound p w
  generalize x.writeProperty p w = r at accepts posts
  cases posts with
  | failed e x' w' last accepted =>
    exact marks_of_same accepts rfl accepted last
  | sent line x' w' isProperty last accepted =>
    have now : w'.now = w.now := accepts.now
    rw [now] at last
    exact marks_of_one accepts rfl accepted isProperty last

/-- If a property is due, one line is accepted, and it is a property line; or sending it fails, and none is. -/
theorem writePropertyIfDue_accepts (sound : x.channel.Sound) (due : x.propertyDue w.now = true) (p : Property) :
    let r := x.writePropertyIfDue p w
    (r.result = .ok true ∧
      ∃ line, Command.isPropertyLine line = true ∧ r.world.acceptances = w.acceptances ++ [(w.now, line)]) ∨
    ∃ e, r.result = .error e ∧ r.world.acceptances = w.acceptances := by
  have accepts := accepts_act sound (.property p) w
  have posts := writeProperty_cases sound p w
  rw [act_property_eq] at accepts
  rw [writePropertyIfDue_of_due due]
  generalize x.writeProperty p w = r at accepts posts
  cases posts with
  | failed e x' w' last accepted =>
    have same := accepts.acceptances_eq (accepted.trans (List.append_nil _).symm)
    exact .inr ⟨e, rfl, same.trans (List.append_nil _)⟩
  | sent line x' w' isProperty last accepted => exact .inl ⟨rfl, line, isProperty, accepts.acceptances_eq accepted⟩

theorem marks_propertyIfDue (sound : x.channel.Sound) (p : Property) (w : World) :
    Marks x w (.propertyIfDue p, (act (.propertyIfDue p) x w).result) (act (.propertyIfDue p) x w).state
      (act (.propertyIfDue p) x w).world := by
  rw [act_propertyIfDue_eq]
  cases due : x.propertyDue w.now with
  | false =>
    rw [writePropertyIfDue_of_early due]
    exact marks_of_same (.refl w) rfl rfl rfl
  | true =>
    rw [writePropertyIfDue_of_due due]
    -- the answers differ, but a property was sent in the same cases
    have marks := marks_property sound p w
    rw [act_property_eq] at marks
    generalize x.writeProperty p w = r at marks ⊢
    obtain ⟨result, x', w'⟩ := r
    cases result with
    | ok _ => exact ⟨marks.last, marks.times⟩
    | error e => exact ⟨marks.last, marks.times⟩

theorem marks_write (sound : x.channel.Sound) (s : Sample) (w : World) :
    Marks x w (.write s, (act (.write s) x w).result) (act (.write s) x w).state (act (.write s) x w).world := by
  have accepts := accepts_act sound (.write s) w
  rw [act_write_eq] at accepts ⊢
  have writes := write_cases sound s w
  generalize x.write s w = r at accepts writes
  have logged {w' w'' : World} (notes : w'.Leads [] w'') : w''.acceptedLines = w'.acceptedLines :=
    notes.acceptedLines.trans (List.append_nil _)
  cases writes with
  | invalid e unprepared =>
    have same : (x.turnedDown s e w).world.acceptedLines = w.acceptedLines := logged (w.leads_log _ _ _)
    exact marks_of_same accepts rfl same rfl
  | closed entity prepared isClosed =>
    have same := logged (leads_logFailure (x.addReport {}) s (.delivery .closed) w)
    exact marks_of_same accepts rfl same rfl
  | fares entity r prepared fares =>
    have balanced : Work.Balanced x.channel.batch.capacity { writer := x } w r.state r.world := by
      cases fares with
      | done _ _ balanced => exact balanced
      | stopped _ _ _ balanced => exact balanced
    obtain ⟨told, grows, -⟩ := balanced.lines
    obtain ⟨lines, rendered, accepted⟩ := grows.accepted
    have none : lines.countP Command.isPropertyLine = 0 := Command.countP_isPropertyLine rendered grows.values
    have last : r.state.writer.lastProperty = x.lastProperty := grows.lastProperty
    have same : (concluded s r).world.acceptedLines = r.world.acceptedLines := by
      unfold concluded
      dsimp only
      split
      · rfl
      · exact logged (leads_logFailure _ s _ r.world)
    have last' : (concluded s r).state.lastProperty = x.lastProperty := by
      unfold concluded
      dsimp only
      split
      · exact last
      · exact last
    exact marks_of_none accepts rfl (same.trans accepted) none last'

/-- Every operation. -/
theorem marks_act (sound : x.channel.Sound) (op : Op) (w : World) :
    Marks x w (op, (act op x w).result) (act op x w).state (act op x w).world := by
  cases op with
  | write s => exact marks_write sound s w
  | property p => exact marks_property sound p w
  | propertyIfDue p => exact marks_propertyIfDue sound p w
  | flush timeout =>
    have accepts := accepts_act sound (.flush timeout) w
    have mirrors := x.mirrors_flush timeout w
    have flushes := Channel.flush_cases sound.linked timeout w
    have same : (x.flush timeout w).world.acceptedLines = w.acceptedLines := by
      rw [mirrors.notes.acceptedLines, flushes.acceptedLines]
      exact List.append_nil _
    rw [act_flush_eq] at accepts ⊢
    refine marks_of_same accepts rfl same ?_
    unfold Writer.flush
    dsimp only
    split <;> rfl
  | shutdown =>
    have accepts := accepts_act sound .shutdown w
    have mirrors := x.mirrors_shutdown w
    have ends := Channel.shutdown_cases sound w
    have same : (x.shutdown w).world.acceptedLines = w.acceptedLines := by
      rw [mirrors.notes.acceptedLines, ends.acceptedLines]
      exact List.append_nil _
    rw [act_shutdown_eq] at accepts ⊢
    refine marks_of_same accepts rfl same ?_
    unfold Writer.shutdown
    split <;> rfl

/-! ### The time of the last property -/

/-- The writer remembers when the last property line was accepted; none was accepted after another one, nor later than
now. -/
structure Recalls (interval : Nat) (x : Writer) (w : World) : Prop where
  sound : x.channel.Sound
  setting : Micros.ofSeconds x.node.propertyInterval = interval
  last : x.lastProperty = w.propertyTimes.getLast?
  past : (w.propertyTimes ++ [w.now]).Pairwise (· ≤ ·)

namespace Recalls

variable {interval : Nat}

/-- Time passes. -/
theorem later (h : Recalls interval x w) {ο : Type} {c : Call ο} (forward : w.now ≤ c.now) :
    Recalls interval x (w.atCall c) where
  sound := h.sound
  setting := h.setting
  last := h.last
  past := by
    obtain ⟨ordered, -, past⟩ := List.pairwise_append.1 h.past
    refine List.pairwise_append.2 ⟨ordered, List.pairwise_singleton _ _, fun t ht now hnow => ?_⟩
    have before := past t ht w.now List.mem_cons_self
    rw [List.mem_singleton.1 hnow]
    exact Int.le_trans before forward

theorem act (h : Recalls interval x w) (op : Op) : Recalls interval (act op x w).state (act op x w).world := by
  have marks := marks_act h.sound op w
  have now : (Writer.act op x w).world.now = w.now := (accepts_act h.sound op w).now
  refine ⟨Channel.upheld_sound.writer_act h.sound h.sound op, ?_, ?_, ?_⟩
  · rw [node_act h.sound]
    exact h.setting
  · rw [marks.last, marks.times]
    split
    · exact List.getLast?_concat.symm
    · rw [List.append_nil]
      exact h.last
  · rw [marks.times, now]
    split
    · refine List.pairwise_append.2 ⟨h.past, List.pairwise_singleton _ _, fun t ht now hnow => ?_⟩
      rw [List.mem_singleton.1 hnow]
      rcases List.mem_append.1 ht with ht | ht
      · exact (List.pairwise_append.1 h.past).2.2 t ht w.now List.mem_cons_self
      · exact Int.le_of_eq (List.mem_singleton.1 ht)
    · rw [List.append_nil]
      exact h.past

/-- No property is due while one was accepted less than the interval ago. -/
theorem early_iff (h : Recalls interval x w) :
    x.propertyDue w.now = false ↔ ∃ t ∈ w.propertyTimes, w.now < t + interval := by
  have last := h.last
  have past := h.past
  unfold propertyDue
  rw [h.setting]
  rcases List.eq_nil_or_concat w.propertyTimes with none | ⟨before, latest, times⟩
  · rw [none] at last ⊢
    rw [last]
    simp
  · rw [times, List.concat_eq_append] at last past ⊢
    rw [List.getLast?_concat] at last
    rw [last]
    -- the latest time bounds the others
    obtain ⟨ordered, -, beforeNow⟩ := List.pairwise_append.1 past
    have latestPast : latest ≤ w.now := beforeNow latest (by simp) w.now List.mem_cons_self
    have bound : ∀ t ∈ before ++ [latest], t ≤ latest := by
      intro t ht
      rcases List.mem_append.1 ht with ht | ht
      · exact (List.pairwise_append.1 ordered).2.2 t ht latest List.mem_cons_self
      · exact Int.le_of_eq (List.mem_singleton.1 ht)
    unfold Micros.since
    dsimp only
    rw [decide_eq_false_iff_not]
    constructor
    · intro early
      exact ⟨latest, by simp, by omega⟩
    · rintro ⟨t, ht, early⟩
      have := bound t ht
      omega

theorem answers_early_iff (h : Recalls interval x w) (p : Property) :
    (x.writePropertyIfDue p w).result = .ok false ↔ ∃ t ∈ w.propertyTimes, w.now < t + interval := by
  rw [← h.early_iff]
  cases due : x.propertyDue w.now with
  | false =>
    rw [writePropertyIfDue_of_early due]
    simp [Attempt.done]
  | true =>
    rw [writePropertyIfDue_of_due due]
    cases (x.writeProperty p w).result <;> simp [Except.map]

end Recalls

theorem recalls_course (s : Settings) (network : Network) (now wall : Int) (machine : HostAnswer)
    {calls : List (Call Op)} (forward : Forward now calls) :
    let k := course s network now wall machine calls
    Recalls (Micros.ofSeconds s.node.propertyInterval) k.state k.world := by
  refine Course.forward_induction
    (fun k => Recalls (Micros.ofSeconds s.node.propertyInterval) k.state k.world) ?_ ?_ forward
  · exact ⟨Channel.sound_new _ _ _ _ _, rfl, rfl, List.pairwise_singleton _ _⟩
  · intro k c passes recalls
    have now := (accepts_act recalls.sound c.op (k.world.atCall c)).now
    exact ⟨(recalls.later passes).act c.op, now⟩

/-- After any run of a writer under a clock that does not go backwards, whatever failed in it.  Property lines are
accepted by the operations that send a property, at their time, and by no other; and one that fails does not change when
the next property is due.  A property that is to be sent if one is due is not sent exactly while a property line was
accepted less than the interval ago, and then nothing happens.  If it is sent, one property line is accepted then, at
least the interval after every earlier one; if sending it fails, no line is accepted, and a property is due at any later
time. -/
theorem properties_paced (s : Settings) (network : Network) (now wall : Int) (machine : HostAnswer)
    {calls : List (Call Op)} (forward : Forward now calls) (c : Call Unit) :
    let k := course s network now wall machine calls
    k.world.now ≤ c.now →
      let x := k.state
      let w := k.world.atCall c
      let interval := Micros.ofSeconds s.node.propertyInterval
      (∀ op, let r := act op x w
        r.world.propertyTimes = (w.propertyTimes ++ if wasPosted (op, r.result) then [c.now] else []) ∧
        ∀ e, r.result = .error e → ∀ (c' : Call Unit) (p : Property), c.now ≤ c'.now →
          ((r.state.writePropertyIfDue p (r.world.atCall c')).result = .ok false ↔
            ∃ t ∈ w.propertyTimes, c'.now < t + interval)) ∧
      ∀ p : Property, let r := x.writePropertyIfDue p w
        (r.result = .ok false ↔ ∃ t ∈ w.propertyTimes, c.now < t + interval) ∧
        (r.result = .ok false → r.state = x ∧ r.world = w) ∧
        (r.result = .ok true →
          (∃ line, Command.isPropertyLine line = true ∧ r.world.acceptances = w.acceptances ++ [(c.now, line)]) ∧
          ∀ t ∈ w.propertyTimes, t + interval ≤ c.now) ∧
        ∀ e, r.result = .error e → r.world.acceptances = w.acceptances ∧
          ∀ (c' : Call Unit) (p' : Property), c.now ≤ c'.now →
            (r.state.writePropertyIfDue p' (r.world.atCall c')).result ≠ .ok false := by
  intro k passes x w interval
  have recalls : Recalls interval x w := (recalls_course s network now wall machine forward).later passes
  -- after an operation that fails, what is due depends on the same times
  have unmoved (op : Op) (e : WriteError) (failed : (act op x w).result = .error e) (c' : Call Unit) (p : Property)
      (passes' : c.now ≤ c'.now) :
      (((act op x w).state.writePropertyIfDue p ((act op x w).world.atCall c')).result = .ok false ↔
        ∃ t ∈ w.propertyTimes, c'.now < t + interval) := by
    have marks := marks_act recalls.sound op w
    have stood : (act op x w).world.now = c.now := (accepts_act recalls.sound op w).now
    have idle : wasPosted (op, (act op x w).result) = false := by
      rw [failed]
      cases op <;> rfl
    have times : (act op x w).world.propertyTimes = w.propertyTimes := by
      rw [marks.times, idle]
      exact List.append_nil _
    have later : Recalls interval (act op x w).state ((act op x w).world.atCall c') :=
      (recalls.act op).later (by rw [stood]; exact passes')
    have answers := later.answers_early_iff p
    rw [show ((act op x w).world.atCall c').propertyTimes = w.propertyTimes from times] at answers
    exact answers
  refine ⟨fun op => ⟨(marks_act recalls.sound op w).times, unmoved op⟩, fun p => ?_⟩
  intro r
  have early : r.result = .ok false ↔ ∃ t ∈ w.propertyTimes, c.now < t + interval := recalls.answers_early_iff p
  by_cases isEarly : ∃ t ∈ w.propertyTimes, w.now < t + interval
  · have notDue : x.propertyDue w.now = false := recalls.early_iff.2 isEarly
    have same : r = .done false x w := writePropertyIfDue_of_early notDue p
    rw [same] at early ⊢
    exact ⟨early, fun _ => ⟨rfl, rfl⟩, fun sent => (nomatch sent), fun e failed => (nomatch failed)⟩
  · have due : x.propertyDue w.now = true := by
      rw [← recalls.early_iff, Bool.not_eq_false] at isEarly
      exact isEarly
    refine ⟨early, fun answer => absurd (early.1 answer) isEarly, ?_, ?_⟩
    · intro answer
      rcases writePropertyIfDue_accepts recalls.sound due p with ⟨-, accepted⟩ | ⟨e, failed, -⟩
      · refine ⟨accepted, fun t ht => ?_⟩
        by_contra tooEarly
        exact isEarly ⟨t, ht, Int.not_le.1 tooEarly⟩
      · exact absurd (answer.symm.trans failed) nofun
    · intro e failed
      rcases writePropertyIfDue_accepts recalls.sound due p with ⟨answer, -⟩ | ⟨-, -, accepted⟩
      · exact absurd (answer.symm.trans failed) nofun
      · refine ⟨accepted, fun c' p' passes' answer => ?_⟩
        have moved := unmoved (.propertyIfDue p) e
        rw [act_propertyIfDue_eq] at moved
        have failed' : r.result.map Answer.sent = .error e := congrArg (Except.map Answer.sent) failed
        obtain ⟨t, ht, tooEarly⟩ := (moved failed' c' p' passes').1 answer
        exact isEarly ⟨t, ht, Int.lt_of_le_of_lt passes' tooEarly⟩

/-- A second property within a second of the first, at its end, and then with a type that cannot be written. -/
theorem properties_paced_second :
    let p : Property := { host := "h", type := "t", time := 7 }
    let calls : List (Call Op) := [⟨.property p, 2, 0, .name []⟩]
    let k := course { node := { propertyInterval := 1 } } .ideal 0 0 (.name []) calls
    let early : Call Unit := ⟨(), 1000001, 0, .name []⟩
    let due : Call Unit := ⟨(), 1000002, 0, .name []⟩
    let late : Call Unit := ⟨(), 1000003, 0, .name []⟩
    let sent := k.state.writePropertyIfDue p (k.world.atCall due)
    let failed := k.state.writePropertyIfDue { p with type := "" } (k.world.atCall due)
    (Forward 0 calls ∧ k.world.now ≤ early.now ∧ k.world.now ≤ due.now ∧ k.world.propertyTimes = [2]) ∧
      (k.state.writePropertyIfDue p (k.world.atCall early)).result = .ok false ∧
      (sent.result = .ok true ∧ ∃ line, sent.world.acceptances = k.world.acceptances ++ [(1000002, line)]) ∧
      (failed.result = .error (.command (.bareToken "")) ∧ failed.world.acceptances = k.world.acceptances) ∧
      (failed.state.writePropertyIfDue p (failed.world.atCall late)).result ≠ .ok false := by
  intro p calls k early due late sent failed
  have forward : Forward 0 calls := by decide
  have times : k.world.propertyTimes = [2] := by decide
  have passes : k.world.now ≤ early.now ∧ k.world.now ≤ due.now := by decide
  obtain ⟨-, atEarly⟩ := properties_paced _ .ideal 0 0 (.name []) forward early passes.1
  obtain ⟨-, atDue⟩ := properties_paced _ .ideal 0 0 (.name []) forward due passes.2
  have tooEarly : ∃ t ∈ k.world.propertyTimes, early.now < t + (1000000 : Nat) := by
    rw [times]
    exact ⟨2, List.mem_singleton_self 2, by decide⟩
  have taken : sent.result = .ok true := by decide
  have stopped : failed.result = .error (.command (.bareToken "")) := by decide
  obtain ⟨⟨line, -, accepted⟩, -⟩ := (atDue p).2.2.1 taken
  obtain ⟨unchanged, again⟩ := (atDue _).2.2.2 _ stopped
  exact ⟨⟨forward, passes.1, passes.2, times⟩, (atEarly p).1.2 tooEarly, ⟨taken, line, accepted⟩, ⟨stopped, unchanged⟩,
    again late p (by decide)⟩

end Writer

end MetricFeed
