import MetricFeed.Proofs.LinkRuns

/-!
# What is logged of outages

What a link logs of its dials is settled by how they end, and by nothing else that happens to it: the first dial that
fails is an error, those that fail right after it are counted, and the next one that succeeds tells of the end
(`Target.notices`).  The two fields of an outage follow the number of dials that failed in a row (`Outage.Spans`), each
operation of a link keeps them in step with the history (`Link.act_recounts`), and so the whole log of a run can be read
off the outcomes of its dials (`Link.outage_reported_once`).
-/

namespace MetricFeed

/-! ### Dials that fail in a row -/

/-- How a dial ended. -/
def Event.outcome? : Event → Option DialOutcome
  | .dialed _ outcome => some outcome
  | _ => none

/-- The outcomes of all dials, newest first. -/
def World.outcomes (w : World) : List DialOutcome :=
  w.history.filterMap Event.outcome?

/-- How many dials have failed since the last one that succeeded, or since the beginning; the newest stands first. -/
def failuresInARow (outcomes : List DialOutcome) : Nat :=
  (outcomes.takeWhile (· ≠ .linked)).length

theorem failuresInARow_cons (outcome : DialOutcome) (earlier : List DialOutcome) :
    failuresInARow (outcome :: earlier) = if outcome = .linked then 0 else failuresInARow earlier + 1 := by
  unfold failuresInARow
  by_cases linked : outcome = .linked <;> simp [linked]

/-- Some dials have failed in a row if the last one has. -/
theorem failuresInARow_pos_iff {outcomes : List DialOutcome} :
    0 < failuresInARow outcomes ↔ ∃ outcome, outcomes.head? = some outcome ∧ outcome ≠ .linked := by
  cases outcomes with
  | nil => simp [failuresInARow]
  | cons outcome earlier =>
    rw [failuresInARow_cons]
    by_cases linked : outcome = .linked <;> simp [linked]

/-! ### What is logged of a dial -/

namespace Target

/-- What is logged of a dial that failed after so many others did: the first failure is an error, and each further one
notes which of them it is. -/
def failureNotice (t : Target) (failures : Nat) (e : DeliveryError) : LogEntry :=
  if failures = 0 then ⟨.error, e.message, [("destination", t.display)]⟩
  else ⟨.debug, e.message, [("destination", t.display), ("repeats", toString failures)]⟩

/-- What is logged of a dial, newest first, if so many dials have failed right before it. -/
def notices (t : Target) (failures : Nat) : DialOutcome → List LogEntry
  | .linked =>
    let connected : LogEntry := ⟨.debug, "connected", [("destination", t.display)]⟩
    if failures = 0 then [connected]
    else [⟨.info, "successfully connected to " ++ t.display, [("destination", t.display)]⟩, connected]
  | .refused reason => [t.failureNotice failures (.refused t reason)]
  | .unresolved reason => [t.failureNotice failures (.unresolved t reason)]

/-- What is logged of dials with these outcomes, all newest first. -/
def narration (t : Target) : List DialOutcome → List LogEntry
  | [] => []
  | outcome :: earlier => t.notices (failuresInARow earlier) outcome ++ t.narration earlier

/-- What is logged when a link is taken down. -/
def closedNotice (t : Target) : LogEntry :=
  ⟨.debug, "connection closed", [("destination", t.display)]⟩

theorem failureNotice_ne_closedNotice (t : Target) (failures : Nat) (e : DeliveryError) :
    t.failureNotice failures e ≠ t.closedNotice := by
  unfold failureNotice closedNotice
  by_cases first : failures = 0 <;> simp [first]

theorem ne_closedNotice_of_mem_notices {t : Target} {failures : Nat} {outcome : DialOutcome} {entry : LogEntry}
    (mem : entry ∈ t.notices failures outcome) : entry ≠ t.closedNotice := by
  cases outcome with
  | linked =>
    unfold notices at mem
    unfold closedNotice
    by_cases first : failures = 0
    · simp [first] at mem
      simp [mem]
    · simp [first] at mem
      rcases mem with rfl | rfl <;> simp
  | refused reason =>
    rw [List.mem_singleton.1 mem]
    exact t.failureNotice_ne_closedNotice failures _
  | unresolved reason =>
    rw [List.mem_singleton.1 mem]
    exact t.failureNotice_ne_closedNotice failures _

end Target

/-! ### Outages -/

/-- The outage lasts exactly if dials have failed in a row, and counts them but for the first. -/
structure Outage.Spans (o : Outage) (failures : Nat) : Prop where
  ongoing : o.ongoing = true ↔ 0 < failures
  repeats : 0 < failures → o.repeats + 1 = failures

namespace Outage.Spans

variable {o : Outage} {failures : Nat}

theorem eq_zero_of_ended (h : o.Spans failures) (ended : ¬o.ongoing = true) : failures = 0 :=
  Nat.eq_zero_of_not_pos fun some => ended (h.ongoing.2 some)

theorem fail (h : o.Spans failures) (t : Target) (e : DeliveryError) (w : World) :
    (o.fail t.display e.message w).outage.Spans (failures + 1) ∧
      (o.fail t.display e.message w).world = w.record (.logged (t.failureNotice failures e)) := by
  have counted : (o.fail t.display e.message w).outage.repeats = failures ∧
      (o.fail t.display e.message w).world = w.record (.logged (t.failureNotice failures e)) := by
    unfold Outage.fail Target.failureNotice
    by_cases lasts : o.ongoing = true
    · have some : 0 < failures := h.ongoing.1 lasts
      rw [if_pos lasts, if_neg (Nat.ne_of_gt some)]
      dsimp only
      rw [h.repeats some]
      exact ⟨rfl, rfl⟩
    · have none := h.eq_zero_of_ended lasts
      rw [if_neg lasts, if_pos none, none]
      exact ⟨rfl, rfl⟩
  refine ⟨⟨iff_of_true (ongoing_fail ..) failures.succ_pos, fun _ => ?_⟩, counted.2⟩
  rw [counted.1]

theorem settle (h : o.Spans failures) (destination message : String) (w : World) :
    (o.settle destination message w).outage.Spans 0 ∧
      (o.settle destination message w).world =
        if failures = 0 then w else w.log .info message [("destination", destination)] := by
  have ended : ¬(o.settle destination message w).outage.ongoing = true := by
    rw [ongoing_settle]
    exact Bool.false_ne_true
  refine ⟨⟨iff_of_false ended (Nat.lt_irrefl 0), fun some => absurd some (Nat.lt_irrefl 0)⟩, ?_⟩
  unfold Outage.settle
  by_cases lasts : o.ongoing = true
  · have some : 0 < failures := h.ongoing.1 lasts
    rw [if_pos lasts, if_neg (Nat.ne_of_gt some)]
  · rw [if_neg lasts, if_pos (h.eq_zero_of_ended lasts)]

end Outage.Spans

/-! ### Operations -/

namespace Link

variable {t : Target} {l : Link} {w : World}

/-- The link dials the target, and its outage is what the dials so far have come to. -/
structure Aware (t : Target) (l : Link) (outcomes : List DialOutcome) : Prop where
  target : l.target = t
  outage : l.outage.Spans (failuresInARow outcomes)

/-- What an operation may add to a history, newest first: a dial with what is to be logged of it, or no dial and
nothing but that the link was taken down. -/
def Tells (t : Target) (failures : Nat) (news : List Event) : Prop :=
  (∃ time outcome, news = (t.notices failures outcome).map .logged ++ [.dialed time outcome]) ∨
    news.filterMap Event.outcome? = [] ∧ ∀ entry ∈ news.filterMap Event.log?, entry = t.closedNotice

theorem filterMap_outcome?_logged (entries : List LogEntry) :
    (entries.map Event.logged).filterMap Event.outcome? = [] := by
  rw [List.filterMap_eq_nil_iff]
  intro e mem
  obtain ⟨entry, -, rfl⟩ := List.mem_map.1 mem
  rfl

theorem filterMap_log?_logged (entries : List LogEntry) :
    (entries.map Event.logged).filterMap Event.log? = entries := by
  induction entries with
  | nil => rfl
  | cons entry rest ih =>
    have logged : Event.log? (.logged entry) = some entry := rfl
    rw [List.map_cons, List.filterMap_cons_some logged, ih]

theorem dialError?_eq_none_iff {outcome : DialOutcome} : l.dialError? outcome = none ↔ outcome = .linked := by
  cases outcome <;> simp [dialError?]

theorem notices_of_dialError? {outcome : DialOutcome} {e : DeliveryError} (failure : l.dialError? outcome = some e)
    (failures : Nat) : l.target.notices failures outcome = [l.target.failureNotice failures e] := by
  cases outcome with
  | linked => cases failure
  | refused reason =>
    cases failure
    rfl
  | unresolved reason =>
    cases failure
    rfl

/-- A dial is followed by what is to be logged of it. -/
theorem dial_tells (aware : l.Aware t w.outcomes) :
    let outcome := w.network.dial w.dials l.target
    (l.dial w).world.history =
      (t.notices (failuresInARow w.outcomes) outcome).map .logged ++ .dialed w.now outcome :: w.history ∧
      (l.dial w).state.Aware t (outcome :: w.outcomes) := by
  obtain ⟨rfl, spans⟩ := aware
  intro outcome
  have history : (w.dial l.target).2.history = .dialed w.now outcome :: w.history := rfl
  have ended : ({ l with lastDial := some w.now, dials := l.dials + 1 } : Link).dialError? (w.dial l.target).1 =
      l.dialError? outcome := rfl
  unfold dial
  dsimp only
  rw [ended]
  cases failure : l.dialError? outcome with
  | none =>
    rw [dialError?_eq_none_iff.1 failure] at history ⊢
    obtain ⟨settled, world⟩ := spans.settle l.target.display ("successfully connected to " ++ l.target.display)
      ((w.dial l.target).2.log .debug "connected" [("destination", l.target.display)])
    refine ⟨?_, rfl, by rwa [failuresInARow_cons, if_pos rfl]⟩
    unfold Attempt.done Target.notices
    dsimp only
    rw [world]
    unfold World.log World.record
    rw [history]
    by_cases first : failuresInARow w.outcomes = 0
    · rw [if_pos first, if_pos first]
      rfl
    · rw [if_neg first, if_neg first]
      rfl
  | some e =>
    have failed : outcome ≠ .linked := (isTransient_of_dialError? failure).2
    obtain ⟨spans, world⟩ := spans.fail l.target e (w.dial l.target).2
    refine ⟨?_, rfl, by rwa [failuresInARow_cons, if_neg failed]⟩
    unfold Attempt.fail
    dsimp only
    rw [world, notices_of_dialError? failure]
    unfold World.record
    rw [history]
    rfl

/-- The link and the world that an operation leaves: the history tells of it, and the link is aware of that. -/
def Recounts (t : Target) (w : World) (l' : Link) (w' : World) : Prop :=
  ∃ news, w'.history = news ++ w.history ∧ Tells t (failuresInARow w.outcomes) news ∧ l'.Aware t w'.outcomes

/-- Nothing is dialled, and nothing is logged but that the link was taken down. -/
theorem Aware.recounts (aware : l.Aware t w.outcomes) {l' : Link} {w' : World} (news : List Event)
    (history : w'.history = news ++ w.history) (silent : news.filterMap Event.outcome? = [])
    (closed : ∀ entry ∈ news.filterMap Event.log?, entry = t.closedNotice) (target : l'.target = l.target)
    (outage : l'.outage = l.outage) : Recounts t w l' w' := by
  refine ⟨news, history, .inr ⟨silent, closed⟩, ?_⟩
  have outcomes : w'.outcomes = w.outcomes := by
    unfold World.outcomes
    rw [history, List.filterMap_append, silent, List.nil_append]
  rw [outcomes]
  exact ⟨target.trans aware.target, outage ▸ aware.outage⟩

theorem connect_recounts (aware : l.Aware t w.outcomes) : Recounts t w (l.connect w).state (l.connect w).world := by
  unfold connect
  by_cases up : l.up = true
  · rw [if_pos up]
    exact aware.recounts [] rfl rfl nofun rfl rfl
  · rw [if_neg up]
    cases l.wait? w.now with
    | some wait => exact aware.recounts [.postponed w.now wait] rfl rfl nofun rfl rfl
    | none =>
      obtain ⟨history, aware⟩ := dial_tells aware
      refine ⟨_, by rw [history, ← List.append_cons], .inl ⟨_, _, rfl⟩, ?_⟩
      unfold World.outcomes
      dsimp only
      rw [history, List.filterMap_append, filterMap_outcome?_logged]
      exact aware

theorem write_recounts (aware : l.Aware t w.outcomes) (block : String) :
    Recounts t w (l.write block w).state (l.write block w).world := by
  unfold write
  by_cases up : l.up = true
  · have history : (w.write block).2.history = [.wrote block (w.write block).1] ++ w.history := rfl
    rw [if_pos up]
    generalize w.write block = written at history ⊢
    obtain ⟨outcome, w'⟩ := written
    cases outcome with
    | delivered => exact aware.recounts _ history rfl nofun rfl rfl
    | failed reason => exact aware.recounts _ history rfl nofun rfl rfl
  · rw [if_neg up]
    exact aware.recounts [] rfl rfl nofun rfl rfl

theorem close_recounts (aware : l.Aware t w.outcomes) : Recounts t w (l.close w).1 (l.close w).2 := by
  unfold close
  by_cases up : l.up = true
  · have closed : ∀ entry ∈ [(⟨.debug, "connection closed", [("destination", l.target.display)]⟩ : LogEntry)],
        entry = t.closedNotice := by
      rw [aware.target]
      exact fun entry mem => List.mem_singleton.1 mem
    rw [if_pos up]
    exact aware.recounts [.logged _] rfl rfl closed rfl rfl
  · rw [if_neg up]
    exact aware.recounts [] rfl rfl nofun rfl rfl

/-- No operation but a dial tells of anything but that a link was taken down. -/
theorem act_recounts (aware : l.Aware t w.outcomes) (op : Op) :
    Recounts t w (act op l w).state (act op l w).world := by
  cases op with
  | connect =>
    have connected := connect_recounts aware
    unfold act
    rw [Attempt.andThen_answer (l.connect w) fun _ => ()]
    exact connected
  | write block => exact write_recounts aware block
  | close => exact close_recounts aware

/-! ### Runs -/

/-- Dials have been logged as their outcomes call for. -/
structure Told (t : Target) (l : Link) (w : World) : Prop where
  aware : l.Aware t w.outcomes
  log : (w.history.filterMap Event.log?).filter (· ≠ t.closedNotice) = t.narration w.outcomes

theorem Told.act (told : Told t l w) (op : Op) : Told t (act op l w).state (act op l w).world := by
  obtain ⟨news, history, tells, aware⟩ := act_recounts told.aware op
  refine ⟨aware, ?_⟩
  unfold World.outcomes
  rw [history, List.filterMap_append, List.filterMap_append, List.filter_append, told.log]
  rcases tells with ⟨time, outcome, rfl⟩ | ⟨silent, closed⟩
  · have kept : (t.notices (failuresInARow w.outcomes) outcome).filter (· ≠ t.closedNotice) =
        t.notices (failuresInARow w.outcomes) outcome := by
      rw [List.filter_eq_self]
      exact fun entry mem => by simpa using Target.ne_closedNotice_of_mem_notices mem
    rw [List.filterMap_append, List.filterMap_append, filterMap_log?_logged, filterMap_outcome?_logged]
    show (_ ++ []).filter _ ++ _ = t.narration (outcome :: w.outcomes)
    rw [List.append_nil, kept]
    rfl
  · have nothing : (news.filterMap Event.log?).filter (· ≠ t.closedNotice) = [] := by
      rw [List.filter_eq_nil_iff]
      exact fun entry mem => by simpa using closed entry mem
    rw [silent, nothing]
    rfl

theorem told_run (t : Target) (interval : Nat) (network : Network) (now wall : Int) (machine : HostAnswer)
    (calls : List (Call Op)) :
    let k := Course.run act { target := t, minInterval := interval } (.fresh network now wall machine) calls
    Told t k.state k.world := by
  apply Course.run_induction fun k : Course DeliveryError Link Op Unit => Told t k.state k.world
  · exact ⟨⟨rfl, by simp [failuresInARow, World.outcomes, World.fresh], by
      simp [failuresInARow, World.outcomes, World.fresh]⟩, rfl⟩
  · intro k c told
    have found : Told t k.state (k.world.atCall c) := ⟨told.aware, told.log⟩
    exact found.act c.op

/-- In every run an outage lasts exactly if the last dial failed.  Each call adds a dial with the entries that the
number of dials failed right before it calls for, or nothing but that the link was taken down, and so the log of the run
is that of the outcomes of its dials. -/
theorem outage_reported_once (t : Target) (interval : Nat) (network : Network) (now wall : Int) (machine : HostAnswer)
    (calls : List (Call Op)) :
    let k := Course.run act { target := t, minInterval := interval } (.fresh network now wall machine) calls
    (k.state.outage.ongoing = true ↔ ∃ outcome, k.world.outcomes.head? = some outcome ∧ outcome ≠ .linked) ∧
      (∀ c : Call Op, ∃ news, (k.next act c).world.history = news ++ k.world.history ∧
        Tells t (failuresInARow k.world.outcomes) news) ∧
      (k.world.history.filterMap Event.log?).filter (· ≠ t.closedNotice) = t.narration k.world.outcomes := by
  intro k
  have told : Told t k.state k.world := told_run t interval network now wall machine calls
  refine ⟨told.aware.outage.ongoing.trans failuresInARow_pos_iff, fun c => ?_, told.log⟩
  have found : k.state.Aware t (k.world.atCall c).outcomes := told.aware
  obtain ⟨news, history, tells, -⟩ := act_recounts found c.op
  exact ⟨news, history, tells⟩

end Link

end MetricFeed
