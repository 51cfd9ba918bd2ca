import MetricFeed.Proofs.Pacing

/-!
# How long lines wait

A batch is opened when it is emptied, and also when a flush finds it empty, so no line that waits in it was accepted
before it was opened (`Channel.Dated`).  This is what the age of the batch is good for: after a line was taken, the
lines that wait were accepted less than the flush interval ago, and after a flush less than its timeout ago
(`Channel.waits_less_than`).
-/

namespace MetricFeed

/-! ### Lines that wait -/

/-- The lines accepted fall, in order, into lines that are gone, one group of them for each block handed to a link, and
lines that wait: these make up the text, and were accepted at times with the property `P`. -/
def Waiting (accepted : List (Int × String)) (handed : List (String × WriteOutcome)) (text : String) (P : Int → Prop) :
    Prop :=
  ∃ gone waiting, accepted = gone ++ waiting ∧ Grouped (gone.map Prod.snd) handed "" ∧
    text = String.join (waiting.map Prod.snd) ∧ ∀ a ∈ waiting, P a.1

theorem Grouped.addAll {lines : List String} {handed : List (String × WriteOutcome)} {rest : String}
    (h : Grouped lines handed rest) (more : List String) :
    Grouped (lines ++ more) handed (rest ++ String.join more) := by
  induction more generalizing lines rest with
  | nil =>
    rw [List.append_nil, String.join_nil, String.append_empty]
    exact h
  | cons line more ih =>
    have added := ih (h.add line)
    rw [List.append_assoc, List.singleton_append, String.append_assoc, ← String.join_cons] at added
    exact added

namespace Waiting

variable {accepted : List (Int × String)} {handed : List (String × WriteOutcome)} {text : String} {P Q : Int → Prop}

theorem nil (P : Int → Prop) : Waiting [] [] "" P :=
  ⟨[], [], rfl, .nil, rfl, nofun⟩

theorem mono (h : Waiting accepted handed text P) (implies : ∀ time, P time → Q time) :
    Waiting accepted handed text Q := by
  obtain ⟨gone, waiting, split, grouped, made, times⟩ := h
  exact ⟨gone, waiting, split, grouped, made, fun a ha => implies a.1 (times a ha)⟩

/-- One more line waits. -/
theorem add (h : Waiting accepted handed text P) {time : Int} (line : String) (ok : P time) :
    Waiting (accepted ++ [(time, line)]) handed (text ++ line) P := by
  obtain ⟨gone, waiting, split, grouped, made, times⟩ := h
  refine ⟨gone, waiting ++ [(time, line)], ?_, grouped, ?_, ?_⟩
  · rw [split, List.append_assoc]
  · rw [made, List.map_append, String.join_append, List.map_singleton, String.join_cons, String.join_nil,
      String.append_empty]
  · intro a ha
    rcases List.mem_append.1 ha with ha | ha
    · exact times a ha
    · rw [List.mem_singleton.1 ha]
      exact ok

/-- All lines are in the blocks or wait. -/
theorem grouped (h : Waiting accepted handed text P) : Grouped (accepted.map Prod.snd) handed text := by
  obtain ⟨gone, waiting, split, grouped, made, -⟩ := h
  have all := grouped.addAll (waiting.map Prod.snd)
  rw [String.empty_append, ← made, ← List.map_append, ← split] at all
  exact all

/-- Lines without any text are as good as gone. -/
theorem clear (h : Waiting accepted handed "" P) (Q : Int → Prop) : Waiting accepted handed "" Q :=
  ⟨accepted, [], (List.append_nil _).symm, h.grouped, rfl, nofun⟩

/-- The text becomes a block. -/
theorem close (h : Waiting accepted handed text P) (outcome : WriteOutcome) (Q : Int → Prop) :
    Waiting accepted (handed ++ [(text, outcome)]) "" Q :=
  ⟨accepted, [], (List.append_nil _).symm, h.grouped.close outcome, rfl, nofun⟩

end Waiting

namespace Channel

/-! ### Every line that waits came after the batch was opened -/

/-- The batch was opened in the past, and the lines that wait in it were accepted since. -/
structure Dated (t : Channel) (w : World) : Prop where
  opened : t.batch.openedAt ≤ w.now
  since : Waiting w.acceptances w.handed t.batch.text fun time => t.batch.openedAt ≤ time

namespace Dated

variable {t t' : Channel} {w w' : World} {r : Attempt DeliveryError Channel Unit}

theorem start (target : Target) (minInterval size flushInterval : Nat) (network : Network) (now wall : Int)
    (machine : HostAnswer) :
    Dated (.new target minInterval size flushInterval now) (.fresh network now wall machine) :=
  ⟨Int.le_refl now, .nil _⟩

/-- Time passes. -/
theorem later (h : Dated t w) {ο : Type} {c : Call ο} (forward : w.now ≤ c.now) : Dated t (w.atCall c) :=
  ⟨Int.le_trans h.opened forward, h.since⟩

/-- No line is accepted and no block is written. -/
theorem keep (h : Dated t w) {news : List Event} (leads : w.Leads news w')
    (none : news.filterMap Event.acceptance? = []) (calm : news.filterMap Event.handed? = [])
    (same : t'.batch = t.batch) : Dated t' w' := by
  have accepted : w'.acceptances = w.acceptances := by
    rw [leads.acceptances, none, List.reverse_nil, List.append_nil]
  have handed : w'.handed = w.handed := by
    rw [leads.handed, calm, List.reverse_nil, List.append_nil]
  constructor
  · rw [same, leads.now]
    exact h.opened
  · rw [same, accepted, handed]
    exact h.since

/-- The batch was opened just now. -/
theorem reopened {accepted : List (Int × String)} {handed : List (String × WriteOutcome)}
    (since : Waiting accepted handed t'.batch.text fun time => w.now ≤ time) (now : w'.now = w.now)
    (acceptances : w'.acceptances = accepted) (blocks : w'.handed = handed) (opened : t'.batch.openedAt = w.now) :
    Dated t' w' := by
  constructor
  · exact Int.le_of_eq (opened.trans now.symm)
  · rw [opened, acceptances, blocks]
    exact since

/-- What waited was handed to a link. -/
theorem written (h : Dated t w) {outcome : WriteOutcome} (leads : w.Leads [.wrote t.batch.text outcome] w')
    (empty : t'.batch.text = "") (opened : t'.batch.openedAt = w.now) : Dated t' w' := by
  have since := h.since.close outcome fun time => w.now ≤ time
  rw [← empty] at since
  exact reopened since leads.now (leads.acceptances.trans (List.append_nil _)) leads.handed opened

/-- A batch in which nothing waited was opened again. -/
theorem touched (h : Dated t w) (leads : w.Leads [] w') (empty : t.batch.text = "") (same : t'.batch.text = "")
    (opened : t'.batch.openedAt = w.now) : Dated t' w' := by
  have since := h.since
  rw [empty] at since
  replace since := since.clear fun time => w.now ≤ time
  rw [← same] at since
  exact reopened since leads.now (leads.acceptances.trans (List.append_nil _))
    (leads.handed.trans (List.append_nil _)) opened

theorem send (h : Dated t w) {line : String} (sends : Sends t line w r) : Dated r.state r.world := by
  have since := h.since
  have now : w.now ≤ w.now := Int.le_refl _
  cases sends with
  | closed => exact h
  | tooLong => exact h
  | throttled wait => exact h.keep (w.leads_record rfl) rfl rfl rfl
  | missed e outcome outage w' _ _ _ _ _ news => exact h.keep news rfl rfl rfl
  | lost reason w' _ _ _ _ news => exact h.written news rfl rfl
  | begun outage w' _ _ _ _ empty news =>
    rw [empty] at since
    have first := (since.clear _).add line now
    rw [String.empty_append] at first
    exact reopened first news.now news.acceptances (news.handed.trans (List.append_nil _)) rfl
  | moved w' _ _ _ _ news =>
    have first := (since.close .delivered _).add line now
    rw [String.empty_append] at first
    exact reopened first news.now news.acceptances news.handed rfl
  | appended opened w' _ _ _ age news =>
    have accepted : w'.acceptances = w.acceptances ++ [(w.now, line)] := news.acceptances
    have handed : w'.handed = w.handed := news.handed.trans (List.append_nil _)
    rcases age with ⟨rfl, -⟩ | ⟨rfl, empty⟩
    · constructor
      · show t.batch.openedAt ≤ w'.now
        rw [news.now]
        exact h.opened
      · show Waiting w'.acceptances w'.handed (t.batch.text ++ line) _
        rw [accepted, handed]
        exact since.add line h.opened
    · rw [empty] at since
      have first := (since.clear _).add line now
      rw [← empty] at first
      exact reopened first news.now accepted handed rfl

theorem flush (h : Dated t w) {timeout : Nat} (flushes : Flushes t timeout w r) : Dated r.state r.world := by
  cases flushes with
  | waiting => exact h
  | nothing _ empty => exact h.touched (.refl w) empty empty rfl
  | written w' _ _ _ news => exact h.written news rfl rfl
  | lost reason w' _ _ _ _ news => exact h.written news rfl rfl

theorem shutdown (h : Dated t w) (ends : Ends t w r) : Dated r.state r.world := by
  cases ends with
  | already => exact h
  | nothing w' _ empty news => exact h.touched news empty empty rfl
  | written w' _ _ _ news => exact h.written news rfl rfl
  | lost reason w' _ _ _ _ news => exact h.written news rfl rfl

end Dated

theorem upheld_dated : Upheld Dated where
  note h notes := h.keep notes rfl rfl rfl
  send _ h sends := h.send sends
  flush _ h flushes := h.flush flushes
  shutdown _ h ends := h.shutdown ends

/-- The flush interval stays what it was. -/
theorem upheld_flushInterval (interval : Nat) : Upheld fun t _ => t.flushInterval = interval where
  note h _ := h
  send _ h sends := by cases sends <;> exact h
  flush _ h flushes := by cases flushes <;> exact h
  shutdown _ h ends := by cases ends <;> exact h

/-! ### Bounds -/

variable {t : Channel} {w : World} {r : Attempt DeliveryError Channel Unit} {line : String} {timeout : Nat}

/-- Every line that waits was accepted less than `span` microseconds ago. -/
def Young (t : Channel) (w : World) (span : Nat) : Prop :=
  Waiting w.acceptances w.handed t.batch.text fun time => w.now < time + span

/-- A batch that is young holds young lines only. -/
theorem Dated.young (h : Dated t w) {span : Nat} (age : t.batch.age w.now < span) : t.Young w span := by
  unfold Batch.age Micros.since at age
  refine h.since.mono fun time since => ?_
  have opened := h.opened
  omega

/-- Nothing waits. -/
theorem Dated.young_of_empty (h : Dated t w) (empty : t.batch.text = "") (span : Nat) : t.Young w span := by
  have since := h.since
  unfold Young
  rw [empty] at since ⊢
  exact since.clear _

/-- After a line was taken, with a flush interval. -/
theorem Dated.young_send (h : Dated t w) (sends : Sends t line w r) (taken : r.result = .ok ())
    (timed : 0 < t.flushInterval) : r.state.Young r.world t.flushInterval := by
  have dated := h.send sends
  refine dated.young ?_
  -- a batch that was opened just now has no age
  have fresh {w' : World} (now : w'.now = w.now) : Micros.since w.now w'.now < t.flushInterval := by
    rw [now, Micros.since_self]
    exact timed
  cases sends with
  | closed => cases taken
  | tooLong => cases taken
  | throttled => cases taken
  | missed => cases taken
  | lost => cases taken
  | begun outage w' _ _ _ _ _ news => exact fresh news.now
  | moved w' _ _ _ _ news => exact fresh news.now
  | appended opened w' _ _ _ age news =>
    rcases age with ⟨rfl, young⟩ | ⟨rfl, -⟩
    · show t.batch.age w'.now < _
      rw [news.now]
      exact young
    · exact fresh news.now

/-- After a line was taken, with no flush interval: whatever waited before was written. -/
theorem Sends.text_eq (sends : Sends t line w r) (taken : r.result = .ok ()) (untimed : t.flushInterval = 0) :
    r.state.batch.text = line := by
  cases sends with
  | closed => cases taken
  | tooLong => cases taken
  | throttled => cases taken
  | missed => cases taken
  | lost => cases taken
  | begun => rfl
  | moved => rfl
  | appended opened w' _ _ _ age =>
    rcases age with ⟨-, young⟩ | ⟨-, empty⟩
    · rw [untimed] at young
      exact absurd young (Nat.not_lt_zero _)
    · show t.batch.text ++ line = line
      rw [empty, String.empty_append]

/-- A flush leaves the batch if it is young, and nothing otherwise. -/
theorem Flushes.young_or_empty (flushes : Flushes t timeout w r) :
    (timeout ≠ 0 ∧ r.state.batch.age r.world.now < timeout) ∨ r.state.batch.text = "" := by
  cases flushes with
  | waiting timed young => exact .inl ⟨timed, young⟩
  | nothing _ empty => exact .inr empty
  | written => exact .inr rfl
  | lost => exact .inr rfl

/-- After any run of a channel under a clock that does not go backwards, whatever its dials and writes came to.  Once
the next line was taken, the lines that wait were accepted less than the flush interval ago; without a flush interval
only the line itself waits.  And after the next flush, whatever comes of it, the lines that wait were accepted less than
the timeout ago; without a timeout nothing waits. -/
theorem waits_less_than (target : Target) (minInterval size flushInterval : Nat) (network : Network) (now wall : Int)
    (machine : HostAnswer) {calls : List (Call Op)} (forward : Forward now calls) :
    let k := Course.run act (.new target minInterval size flushInterval now) (.fresh network now wall machine) calls
    ∀ c : Call Unit, k.world.now ≤ c.now →
      let w := k.world.atCall c
      (∀ line, let r := k.state.send line w
        r.result = .ok () →
          (0 < flushInterval → r.state.Young r.world flushInterval) ∧
          (flushInterval = 0 → r.state.batch.text = line)) ∧
      ∀ timeout, let r := k.state.flush timeout w
        (0 < timeout → r.state.Young r.world timeout) ∧ (timeout = 0 → r.state.batch.text = "") := by
  intro k c passes w
  obtain ⟨account, -⟩ := accounted_run target minInterval size flushInterval network now wall machine calls
  have sound : k.state.Sound := account.sound
  have kept : Dated k.state k.world := upheld_dated.channel_forward target minInterval size flushInterval network now
    wall machine (.start ..) (fun dated passes => dated.later passes) forward
  have dated : Dated k.state w := kept.later passes
  have interval : k.state.flushInterval = flushInterval :=
    (upheld_flushInterval flushInterval).channel_forward target minInterval size flushInterval network now wall machine
      rfl (fun same _ => same) forward
  constructor
  · intro line r taken
    have sends : Sends k.state line w r := send_cases sound line w
    constructor
    · intro timed
      rw [← interval] at timed ⊢
      exact dated.young_send sends taken timed
    · intro untimed
      rw [← interval] at untimed
      exact sends.text_eq taken untimed
  · intro timeout r
    have flushes : Flushes k.state timeout w r := flush_cases sound.linked timeout w
    have dated' : Dated r.state r.world := dated.flush flushes
    constructor
    · intro timed
      rcases flushes.young_or_empty with ⟨-, young⟩ | empty
      · exact dated'.young young
      · exact dated'.young_of_empty empty timeout
    · intro untimed
      rcases flushes.young_or_empty with ⟨timed, -⟩ | empty
      · exact absurd untimed timed
      · exact empty

/-- A second line, with a flush interval and without one. -/
theorem waits_less_than_second :
    let calls : List (Call Op) := [⟨.send "a\n", 3, 3, .name []⟩]
    let timed := Course.run act (.new ⟨"h", 1, .tcp⟩ 0 9 10 0) (.fresh .ideal 0 0 (.name [])) calls
    let untimed := Course.run act (.new ⟨"h", 1, .tcp⟩ 0 9 0 0) (.fresh .ideal 0 0 (.name [])) calls
    let c : Call Unit := ⟨(), 7, 7, .name []⟩
    let sent := timed.state.send "b\n" (timed.world.atCall c)
    let flushed := timed.state.flush 5 (timed.world.atCall c)
    (Forward 0 calls ∧ timed.world.now ≤ 7 ∧ untimed.world.now ≤ 7) ∧
      (sent.result = .ok () ∧ sent.state.batch.text = "a\nb\n" ∧ sent.state.Young sent.world 10) ∧
      (flushed.state.batch.text = "a\n" ∧ flushed.state.Young flushed.world 5) ∧
      (timed.state.flush 0 (timed.world.atCall c)).state.batch.text = "" ∧
      (untimed.state.send "b\n" (untimed.world.atCall c)).result = .ok () ∧
      (untimed.state.send "b\n" (untimed.world.atCall c)).state.batch.text = "b\n" := by
  intro calls timed untimed c sent flushed
  have forward : Forward 0 calls := by decide
  have passes : timed.world.now ≤ 7 ∧ untimed.world.now ≤ 7 := by decide
  have taken : sent.result = .ok () ∧ sent.state.batch.text = "a\nb\n" := ⟨rfl, by decide⟩
  have takenUntimed : (untimed.state.send "b\n" (untimed.world.atCall c)).result = .ok () := rfl
  obtain ⟨sends, flushes⟩ := waits_less_than ⟨"h", 1, .tcp⟩ 0 9 10 .ideal 0 0 (.name []) forward c passes.1
  obtain ⟨sendsUntimed, -⟩ := waits_less_than ⟨"h", 1, .tcp⟩ 0 9 0 .ideal 0 0 (.name []) forward c passes.2
  exact ⟨⟨forward, passes⟩, ⟨taken.1, taken.2, (sends "b\n" taken.1).1 (by decide)⟩,
    ⟨by decide, (flushes 5).1 (by decide)⟩, (flushes 0).2 rfl, takenUntimed,
    (sendsUntimed "b\n" takenUntimed).2 rfl⟩

end Channel

end MetricFeed
