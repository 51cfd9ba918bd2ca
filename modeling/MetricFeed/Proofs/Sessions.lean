import MetricFeed.Proofs.Lockstep

/-!
# Sessions

A session is the whole life of a writer: requests, with flushes in between, and a shutdown.  On a network that delivers
everything it answers and delivers what the scribe makes of the requests (`Writer.session_follows`).  So what is
delivered does not depend on when a writer flushes, where it cuts the text into blocks and where it delivers them to.
-/

namespace MetricFeed

namespace Writer

/-! ### Moves and sessions -/

/-- What a user of a writer does before shutting it down. -/
inductive Move where
  | say (q : Request)
  | flush (timeout : Nat)

def Move.op : Move → Op
  | .say q => q.op
  | .flush timeout => .flush timeout

def Move.call (c : Call Move) : Call Op := { c with op := c.op.op }

/-- The requests among the moves, each with what the machine answers at that point. -/
def requests : List (Call Move) → List (Request × HostAnswer)
  | [] => []
  | ⟨.say q, _, _, machine⟩ :: moves => (q, machine) :: requests moves
  | ⟨.flush _, _, _, _⟩ :: moves => requests moves

def Op.isFlush : Op → Bool
  | .flush _ => true
  | _ => false

/-- The results of all operations but flushes. -/
def answers (results : List (Op × Except WriteError Answer)) : List (Op × Except WriteError Answer) :=
  results.filter fun p => !p.1.isFlush

/-- A life of a writer: how it is set up, what is done with it, and when it is shut down. -/
structure Session where
  settings : Settings
  network : Network
  now : Int
  wall : Int
  machine : HostAnswer
  moves : List (Call Move)
  ending : Call Unit

namespace Session

def calls (n : Session) : List (Call Op) :=
  n.moves.map Move.call ++ [{ n.ending with op := .shutdown }]

def course (n : Session) : Course WriteError Writer Op Answer :=
  Writer.course n.settings n.network n.now n.wall n.machine n.calls

/-- In bytes. -/
def capacity (n : Session) : Nat := Channel.blockLimit n.settings.node.protocol n.settings.node.bufferSize

/-- What the scribe makes of the requests. -/
def transcript (n : Session) : Transcript := n.settings.scribe.transcript (requests n.moves)

end Session

/-! ### In lockstep -/

section

variable {k : Course WriteError Writer Op Answer} (ready : k.state.channel.Ready k.world) (now wall : Int)
  (machine : HostAnswer)

include ready

/-- A flush adds no answer and no line, and leaves the scribe as it is. -/
theorem next_flush (timeout : Nat) :
    let k' := k.next act ⟨.flush timeout, now, wall, machine⟩
    k'.state.scribe = k.state.scribe ∧ answers k'.results = answers k.results ∧
      k.state.channel.Takes k.world [] k'.state.channel k'.world := by
  obtain ⟨-, scribe, takes⟩ := flush_ready (ready.atCall ⟨Op.flush timeout, now, wall, machine⟩) timeout
  refine ⟨scribe, ?_, takes.ready, takes.capacity, takes.accepted⟩
  exact (List.filter_append _ _).trans (List.append_nil _)

/-- A request adds the answer and the lines of the scribe, and leaves what the scribe leaves. -/
theorem next_request (q : Request)
    (short : ∀ line ∈ (k.state.scribe.answer q machine).lines, line.utf8ByteSize < k.state.channel.batch.capacity) :
    let d := k.state.scribe.answer q machine
    let k' := k.next act ⟨q.op, now, wall, machine⟩
    k'.state.scribe = d.scribe ∧ answers k'.results = answers k.results ++ [(q.op, d.result)] ∧
      k.state.channel.Takes k.world d.lines k'.state.channel k'.world := by
  obtain ⟨result, scribe, takes⟩ := k.state.follows_act q _ (ready.atCall ⟨q.op, now, wall, machine⟩) short
  refine ⟨scribe, ?_, takes.ready, takes.capacity, takes.accepted⟩
  show answers (k.results ++ [(q.op, (act q.op k.state _).result)]) = _
  rw [result]
  refine (List.filter_append _ _).trans ?_
  cases q <;> rfl

end

/-- From any point where the channel is ready, the writer goes through its moves as its scribe does. -/
theorem lockstep (moves : List (Call Move)) (k : Course WriteError Writer Op Answer)
    (ready : k.state.channel.Ready k.world)
    (short : ∀ line ∈ (k.state.scribe.transcript (requests moves)).lines,
      line.utf8ByteSize < k.state.channel.batch.capacity) :
    let t := k.state.scribe.transcript (requests moves)
    let k' := (moves.map Move.call).foldl (Course.next act) k
    answers k'.results = answers k.results ++ t.results ∧
      k.state.channel.Takes k.world t.lines k'.state.channel k'.world := by
  -- on the moves: what the first one leaves is ready again, and its scribe goes on with the rest
  induction moves generalizing k with
  | nil => exact ⟨(List.append_nil _).symm, .refl ready⟩
  | cons c moves ih =>
    obtain ⟨op, now, wall, machine⟩ := c
    cases op with
    | flush timeout =>
      obtain ⟨scribe, answered, takes⟩ := next_flush ready now wall machine timeout
      obtain ⟨results, takes'⟩ := ih _ takes.ready (by rw [scribe, takes.capacity]; exact short)
      rw [scribe] at results takes'
      rw [answered] at results
      exact ⟨results, takes.trans takes'⟩
    | say q =>
      let d := k.state.scribe.answer q machine
      have short : ∀ line ∈ d.lines ++ (d.scribe.transcript (requests moves)).lines,
          line.utf8ByteSize < k.state.channel.batch.capacity := short
      obtain ⟨scribe, answered, takes⟩ := next_request ready now wall machine q
        fun line hl => short line (List.mem_append_left _ hl)
      obtain ⟨results, takes'⟩ := ih _ takes.ready (by
        rw [scribe, takes.capacity]
        exact fun line hl => short line (List.mem_append_right _ hl))
      rw [scribe] at results takes'
      rw [answered, List.append_assoc] at results
      exact ⟨results, takes.trans takes'⟩

/-- A session answers, accepts and delivers what its scribe makes of the requests. -/
theorem session_follows (n : Session) (delivers : n.network.Delivers n.settings.node.target)
    (short : ∀ line ∈ n.transcript.lines, line.utf8ByteSize < n.capacity) :
    answers n.course.results = n.transcript.results ++ [(.shutdown, .ok .finished)] ∧
      n.course.world.acceptedLines = n.transcript.lines ∧
      String.join n.course.world.deliveredBlocks = String.join n.transcript.lines := by
  let start := Writer.ofSettings n.settings (.fresh n.network n.now n.wall n.machine)
  let k : Course WriteError Writer Op Answer := Course.run act start.1 start.2 (n.moves.map Move.call)
  let c : Call Op := { n.ending with op := .shutdown }
  have course : n.course = k.next act c := Course.run_concat _ _ _ _ _
  have ready : start.1.channel.Ready start.2 :=
    ⟨Channel.sound_new _ _ _ _ _, rfl, .inr rfl, delivers, fun b hb => by cases hb⟩
  obtain ⟨results, takes⟩ : answers k.results = n.transcript.results ∧
      start.1.channel.Takes start.2 n.transcript.lines k.state.channel k.world :=
    lockstep n.moves ⟨[], start.1, start.2⟩ ready short
  obtain ⟨result, delivered, empty, accepted⟩ := shutdown_ready (takes.ready.atCall c)
  have account : n.course.state.channel.Accounted n.course.world :=
    (faithful_course n.settings n.network n.now n.wall n.machine n.calls).account
  have lines : (k.next act c).world.acceptedLines = n.transcript.lines := accepted.trans takes.accepted
  rw [course] at account ⊢
  refine ⟨?_, lines, ?_⟩
  · show answers (k.results ++ [(.shutdown, (act .shutdown k.state (k.world.atCall c)).result)]) = _
    rw [result, ← results]
    exact List.filter_append _ _
  · -- nothing waits any more, so the groups of accepted lines are the blocks handed out
    have joined := account.ledger.grouped.join_eq
    rw [show (k.next act c).state.channel.batch.text = "" from empty, String.append_empty] at joined
    rw [World.deliveredBlocks_of_handed (w := (k.next act c).world) delivered]
    exact joined.symm.trans (congrArg String.join lines)

end Writer

/-! ### Two sessions -/

/-- The settings differ at most in where lines are delivered and in how they are batched. -/
def Settings.SameWording (a b : Settings) : Prop :=
  b = { a with node := { a.node with
    host := b.node.host
    port := b.node.port
    protocol := b.node.protocol
    bufferSize := b.node.bufferSize
    flushInterval := b.node.flushInterval
    minReconnectInterval := b.node.minReconnectInterval } }

theorem Settings.SameWording.scribe_eq {a b : Settings} (h : a.SameWording b) : b.scribe = a.scribe := by
  rw [show b = _ from h]
  rfl

namespace Writer

/-- Two writers that differ only in where and how lines are delivered, and are asked the same, accept the same lines,
give the same answers and deliver the same text: it does not matter when they flush and where they cut the text. -/
theorem delivered_text_eq (a b : Session) (settings : a.settings.SameWording b.settings)
    (asked : requests a.moves = requests b.moves) (first : a.network.Delivers a.settings.node.target)
    (second : b.network.Delivers b.settings.node.target)
    (short : ∀ line ∈ a.transcript.lines, line.utf8ByteSize < a.capacity ∧ line.utf8ByteSize < b.capacity) :
    answers a.course.results = answers b.course.results ∧
      (a.course.world.acceptedLines = a.transcript.lines ∧ b.course.world.acceptedLines = a.transcript.lines) ∧
      String.join a.course.world.deliveredBlocks = String.join b.course.world.deliveredBlocks := by
  have transcript : b.transcript = a.transcript := by
    unfold Session.transcript
    rw [settings.scribe_eq, asked]
  obtain ⟨answers, lines, text⟩ := session_follows a first fun line hl => (short line hl).1
  obtain ⟨answers', lines', text'⟩ := session_follows b second fun line hl => (short line (transcript ▸ hl)).2
  rw [transcript] at answers' lines' text'
  exact ⟨answers.trans answers'.symm, ⟨lines, lines'⟩, text.trans text'.symm⟩

/-- A counter and a property, each sent at once. -/
def Session.prompt : Session where
  settings := { node := { metricDefinitions := false } }
  network := .ideal
  now := 0
  wall := 0
  machine := .failed "no name"
  moves := [
    ⟨.say (.sample { host := "h", plugin := "p", typeName := "t", values := [⟨"rx", .counter 5⟩] }), 0, 0, .name []⟩,
    ⟨.say (.property { host := "h", type := "t", time := 7 } (by decide)), 9, 3, .name []⟩]
  ending := ⟨(), 4, 8, .name []⟩

/-- The same requests, gathered in datagrams and flushed in between by a clock that stands still. -/
def Session.gathering : Session where
  settings := { node := { Session.prompt.settings.node with protocol := .udp, bufferSize := 100, flushInterval := 5 } }
  network := .ideal
  now := 0
  wall := 0
  machine := .name []
  moves := Session.prompt.moves ++ [⟨.flush 0, 0, 0, .failed "busy"⟩]
  ending := ⟨(), 0, 0, .name []⟩

theorem delivered_text_eq_prompt_gathering :
    (∀ line ∈ Session.prompt.transcript.lines,
      line.utf8ByteSize < Session.prompt.capacity ∧ line.utf8ByteSize < Session.gathering.capacity) ∧
    String.join Session.prompt.course.world.deliveredBlocks =
      String.join Session.gathering.course.world.deliveredBlocks :=
  have short : ∀ line ∈ Session.prompt.transcript.lines,
      line.utf8ByteSize < Session.prompt.capacity ∧ line.utf8ByteSize < Session.gathering.capacity := by decide
  have delivers (t : Target) : Network.ideal.Delivers t := ⟨fun _ => rfl, fun _ => rfl⟩
  ⟨short, (delivered_text_eq .prompt .gathering rfl rfl (delivers _) (delivers _) short).2.2⟩

end Writer

end MetricFeed
