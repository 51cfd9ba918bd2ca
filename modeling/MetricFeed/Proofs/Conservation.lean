import MetricFeed.Proofs.ChannelMoves
import MetricFeed.Proofs.Course

/-!
# Conservation of lines

The lines a channel accepted fall, in order, into groups: one for each block that was handed to a link, and a last one
that still waits (`Grouped`).  A line that was refused is in none of them.  The groups of a run are found step by step:
an accepted line joins the last group, a write closes it (`Channel.Accounted`).
-/

namespace MetricFeed

/-! ### Groups of lines -/

/-- In order, the lines fall into one group for each block, which the group makes up, and a last group that makes up
the rest. -/
def Grouped (lines : List String) (handed : List (String × WriteOutcome)) (rest : String) : Prop :=
  ∃ (groups : List (List String × WriteOutcome)) (last : List String),
    lines = groups.flatMap Prod.fst ++ last ∧ handed = groups.map (fun g => (String.join g.1, g.2)) ∧
      rest = String.join last

namespace Grouped

variable {lines : List String} {handed : List (String × WriteOutcome)} {rest : String}

theorem nil : Grouped [] [] "" :=
  ⟨[], [], rfl, rfl, rfl⟩

/-- A line joins the last group. -/
theorem add (h : Grouped lines handed rest) (line : String) : Grouped (lines ++ [line]) handed (rest ++ line) := by
  obtain ⟨groups, last, hl, hh, hr⟩ := h
  refine ⟨groups, last ++ [line], ?_, hh, ?_⟩
  · rw [hl, List.append_assoc]
  · rw [hr, String.join_append, String.join_cons, String.join_nil, String.append_empty]

/-- The last group becomes a block. -/
theorem close (h : Grouped lines handed rest) (outcome : WriteOutcome) :
    Grouped lines (handed ++ [(rest, outcome)]) "" := by
  obtain ⟨groups, last, hl, hh, hr⟩ := h
  refine ⟨groups ++ [(last, outcome)], [], ?_, ?_, rfl⟩
  · rw [hl, List.flatMap_append, List.flatMap_singleton, List.append_nil]
  · rw [hh, hr, List.map_append, List.map_singleton]

private theorem join_groups (groups : List (List String × WriteOutcome)) :
    String.join (groups.flatMap Prod.fst) = String.join (groups.map fun g => String.join g.1) := by
  induction groups with
  | nil => rfl
  | cons g gs ih => rw [List.flatMap_cons, String.join_append, List.map_cons, String.join_cons, ih]

theorem join_eq (h : Grouped lines handed rest) : String.join lines = String.join (handed.map Prod.fst) ++ rest := by
  obtain ⟨groups, last, hl, hh, hr⟩ := h
  rw [hl, hh, hr, String.join_append, join_groups, List.map_map]
  rfl

end Grouped

/-- The account of a batch with this capacity: the lines accepted and the blocks handed out, newest first, and the
text that waits. -/
structure Ledger (capacity : Nat) (accepted : List String) (handed : List (String × WriteOutcome)) (rest : String) :
    Prop where
  grouped : Grouped accepted.reverse handed.reverse rest
  blocks : ∀ b ∈ handed, b.1 ≠ "" ∧ b.1.utf8ByteSize ≤ capacity

namespace Ledger

variable {capacity : Nat} {accepted : List String} {handed : List (String × WriteOutcome)} {rest : String}

theorem add (h : Ledger capacity accepted handed rest) (line : String) :
    Ledger capacity (line :: accepted) handed (rest ++ line) where
  grouped := by
    rw [List.reverse_cons]
    exact h.grouped.add line
  blocks := h.blocks

theorem close (h : Ledger capacity accepted handed rest) (outcome : WriteOutcome) (full : rest ≠ "")
    (fits : rest.utf8ByteSize ≤ capacity) : Ledger capacity accepted ((rest, outcome) :: handed) "" where
  grouped := by
    rw [List.reverse_cons]
    exact h.grouped.close outcome
  blocks := by
    intro b hb
    rcases List.mem_cons.1 hb with rfl | hb
    · exact ⟨full, fits⟩
    · exact h.blocks b hb

/-- The first line after a block, or in an empty batch. -/
theorem begin (h : Ledger capacity accepted handed "") (line : String) :
    Ledger capacity (line :: accepted) handed line := by
  have h := h.add line
  rw [String.empty_append] at h
  exact h

end Ledger

/-! ### The account of a channel -/

namespace Channel

/-- What was accepted in a world is what went out in blocks and what waits in the channel. -/
structure Accounted (t : Channel) (w : World) : Prop where
  sound : t.Sound
  ledger : Ledger t.batch.capacity (w.history.filterMap Event.accepted?) (w.history.filterMap Event.handed?)
    t.batch.text

theorem ledger_of_leads {w w' : World} {news : List Event} {capacity : Nat} {rest : String} (hn : w.Leads news w')
    (h : Ledger capacity (news.filterMap Event.accepted? ++ w.history.filterMap Event.accepted?)
      (news.filterMap Event.handed? ++ w.history.filterMap Event.handed?) rest) :
    Ledger capacity (w'.history.filterMap Event.accepted?) (w'.history.filterMap Event.handed?) rest := by
  rw [hn.filterMap (fun _ => rfl), hn.filterMap (fun _ => rfl)]
  exact h

namespace Accounted

variable {t : Channel} {w : World} {r : Attempt DeliveryError Channel Unit}

theorem start (target : Target) (minInterval size flushInterval : Nat) (network : Network) (now wall : Int)
    (machine : HostAnswer) :
    Accounted (Channel.new target minInterval size flushInterval now) (World.fresh network now wall machine) :=
  ⟨sound_new target minInterval size flushInterval now, .nil, fun b hb => by cases hb⟩

/-- The clocks may move. -/
theorem leads {w' : World} (h : Accounted t w) (hn : w.history = w'.history) : Accounted t w' :=
  ⟨h.sound, hn ▸ h.ledger⟩

theorem note {w' : World} (h : Accounted t w) (notes : w.Leads [] w') : Accounted t w' :=
  ⟨h.sound, ledger_of_leads notes h.ledger⟩

theorem flush (h : Accounted t w) {timeout : Nat} (hr : Flushes t timeout w r) : Accounted r.state r.world := by
  refine ⟨hr.sound h.sound, ?_⟩
  cases hr with
  | waiting => exact h.ledger
  | nothing => exact h.ledger
  | written w' _ full _ news => exact ledger_of_leads news (h.ledger.close .delivered full h.sound.fits)
  | lost reason w' _ full _ _ news => exact ledger_of_leads news (h.ledger.close (.failed reason) full h.sound.fits)

theorem send (h : Accounted t w) {line : String} (hr : Sends t line w r) : Accounted r.state r.world := by
  refine ⟨hr.sound h.sound, ?_⟩
  cases hr with
  | closed => exact h.ledger
  | tooLong => exact h.ledger
  | throttled => exact ledger_of_leads (w.leads_record rfl) h.ledger
  | missed e outcome outage w' _ _ _ _ _ news => exact ledger_of_leads news h.ledger
  | lost reason w' _ full _ _ news => exact ledger_of_leads news (h.ledger.close (.failed reason) full h.sound.fits)
  | appended opened w' _ _ _ _ news => exact ledger_of_leads news (h.ledger.add line)
  | begun outage w' _ _ _ _ empty news =>
    -- no line waited while the link was down
    have ledger := h.ledger
    rw [empty] at ledger
    exact ledger_of_leads news (ledger.begin line)
  | moved w' _ _ _ full news =>
    exact ledger_of_leads news ((h.ledger.close .delivered full h.sound.fits).begin line)

theorem shutdown (h : Accounted t w) (hr : Ends t w r) : Accounted r.state r.world := by
  refine ⟨hr.sound h.sound, ?_⟩
  cases hr with
  | already => exact h.ledger
  | nothing w' _ _ news => exact ledger_of_leads news h.ledger
  | written w' _ full _ news => exact ledger_of_leads news (h.ledger.close .delivered full h.sound.fits)
  | lost reason w' _ full _ _ news => exact ledger_of_leads news (h.ledger.close (.failed reason) full h.sound.fits)

end Accounted

/-! ### Runs of a channel -/

inductive Op where
  | send (line : String)
  | flush (timeout : Nat)
  | shutdown

def act (op : Op) (t : Channel) (w : World) : Attempt DeliveryError Channel Unit :=
  match op with
  | .send line => t.send line w
  | .flush timeout => t.flush timeout w
  | .shutdown => t.shutdown w

/-- The line of a `send` that succeeded. -/
def taken? : Op × Except DeliveryError Unit → Option String
  | (.send line, .ok _) => some line
  | _ => none

/-- The lines whose `send` succeeded, in order. -/
def sentLines (results : List (Op × Except DeliveryError Unit)) : List String :=
  results.filterMap taken?

theorem Accounted.act {t : Channel} {w : World} (h : Accounted t w) (op : Op) :
    Accounted (act op t w).state (act op t w).world := by
  cases op with
  | send line => exact h.send (send_cases h.sound line w)
  | flush timeout => exact h.flush (flush_cases h.sound.linked timeout w)
  | shutdown => exact h.shutdown (shutdown_cases h.sound w)

theorem capacity_act {t : Channel} (ht : t.Sound) (op : Op) (w : World) :
    (act op t w).state.batch.capacity = t.batch.capacity := by
  cases op with
  | send line => exact (send_cases ht line w).capacity
  | flush timeout => exact (flush_cases ht.linked timeout w).capacity
  | shutdown => exact (shutdown_cases ht w).capacity

/-- A world accepts a line exactly when `send` succeeds with it. -/
theorem acceptedLines_act {t : Channel} (ht : t.Sound) (op : Op) (w : World) :
    (act op t w).world.acceptedLines = w.acceptedLines ++ sentLines [(op, (act op t w).result)] := by
  cases op with
  | send line =>
    have h : (act (.send line) t w).world.acceptedLines = _ := (send_cases ht line w).acceptedLines
    rw [h]
    show _ = w.acceptedLines ++ sentLines [(.send line, (t.send line w).result)]
    cases (t.send line w).result <;> rfl
  | flush timeout =>
    have h : (act (.flush timeout) t w).world.acceptedLines = _ := (flush_cases ht.linked timeout w).acceptedLines
    rw [h]
    exact (List.append_nil _).symm
  | shutdown =>
    have h : (act .shutdown t w).world.acceptedLines = _ := (shutdown_cases ht w).acceptedLines
    rw [h]
    exact (List.append_nil _).symm

/-- The state of the account after a run. -/
theorem accounted_run (target : Target) (minInterval size flushInterval : Nat) (network : Network) (now wall : Int)
    (machine : HostAnswer) (calls : List (Call Op)) :
    let k := Course.run act (.new target minInterval size flushInterval now) (.fresh network now wall machine) calls
    Accounted k.state k.world ∧ k.world.acceptedLines = sentLines k.results ∧
      k.state.batch.capacity = blockLimit target.protocol size := by
  apply Course.run_induction fun k => Accounted k.state k.world ∧ k.world.acceptedLines = sentLines k.results ∧
    k.state.batch.capacity = blockLimit target.protocol size
  · exact ⟨.start target minInterval size flushInterval network now wall machine, rfl, rfl⟩
  · intro k c ⟨account, lines, capacity⟩
    -- the clocks move before the call, which leaves the account as it is
    have account' : Accounted k.state (k.world.atCall c) := account.leads rfl
    refine ⟨account'.act c.op, ?_, (capacity_act account.sound c.op _).trans capacity⟩
    have added := acceptedLines_act account.sound c.op (k.world.atCall c)
    rw [show (k.world.atCall c).acceptedLines = k.world.acceptedLines from rfl, lines] at added
    show (act c.op k.state (k.world.atCall c)).world.acceptedLines = sentLines (k.results ++ _)
    rw [added, sentLines, sentLines, sentLines, List.filterMap_append]

theorem blockLimit_udp_le (size : Nat) : blockLimit .udp size ≤ 1428 :=
  Nat.min_le_right size maxDatagram

/-- The lines of the successful `send`s of a run fall, in order, into one group for each block handed to a link, which
the group makes up, and a last group that waits.  No block is empty or too large, and a `send` that fails leaves
nothing of its line behind. -/
theorem lines_conserved (target : Target) (minInterval size flushInterval : Nat) (network : Network) (now wall : Int)
    (machine : HostAnswer) (calls : List (Call Op)) :
    let k := Course.run act (.new target minInterval size flushInterval now) (.fresh network now wall machine) calls
    Grouped (sentLines k.results) k.world.handed k.state.batch.text ∧
    (∀ b ∈ k.world.handed, b.1 ≠ "" ∧ b.1.utf8ByteSize ≤ blockLimit target.protocol size ∧
      (target.protocol = .udp → b.1.utf8ByteSize ≤ 1428)) ∧
    ∀ (c : Call Op) (line : String) (e : DeliveryError), c.op = .send line →
      let r := act c.op k.state (k.world.atCall c)
      r.result = .error e →
        (r.world.handed = k.world.handed ∧ r.state.batch.text = k.state.batch.text) ∨
          ∃ reason, r.world.handed = k.world.handed ++ [(k.state.batch.text, .failed reason)] ∧
            r.state.batch.text = "" := by
  intro k
  obtain ⟨account, lines, capacity⟩ :=
    accounted_run target minInterval size flushInterval network now wall machine calls
  refine ⟨?_, ?_, ?_⟩
  · rw [← lines]
    exact account.ledger.grouped
  · intro b hb
    obtain ⟨full, fits⟩ := account.ledger.blocks b (List.mem_reverse.1 hb)
    rw [capacity] at fits
    refine ⟨full, fits, fun udp => ?_⟩
    rw [udp] at fits
    exact Nat.le_trans fits (blockLimit_udp_le size)
  · intro c line e hc r hr
    have sends := send_cases account.sound line (k.world.atCall c)
    have eq : r = k.state.send line (k.world.atCall c) := by
      show act c.op _ _ = _
      rw [hc]
      rfl
    rw [eq] at hr ⊢
    exact sends.refused hr

/-- A line as large as the batch is refused while another one waits. -/
theorem lines_conserved_refused :
    let k := Course.run act (.new ⟨"h", 1, .udp⟩ 0 4 9 0) (.fresh .ideal 0 0 (.name [])) [⟨.send "ab", 0, 0, .name []⟩]
    let r := act (.send "abcd") k.state (k.world.atCall ⟨Op.send "abcd", 3, 3, .name []⟩)
    r.result = .error (.lineTooLong 4 4) ∧
      ((r.world.handed = k.world.handed ∧ r.state.batch.text = k.state.batch.text) ∨
        ∃ reason, r.world.handed = k.world.handed ++ [(k.state.batch.text, .failed reason)] ∧
          r.state.batch.text = "") :=
  ⟨rfl, (lines_conserved ⟨"h", 1, .udp⟩ 0 4 9 .ideal 0 0 (.name []) [⟨.send "ab", 0, 0, .name []⟩]).2.2
    ⟨.send "abcd", 3, 3, .name []⟩ "abcd" _ rfl rfl⟩

end Channel

end MetricFeed
