import MetricFeed.Channel
import MetricFeed.Proofs.Traffic

/-!
# What a channel can do

One relation for each operation of a link and of a channel lists all that the operation can come to, with its guards,
the state it leaves and its traffic.  Each operation is shown to be one of its cases (`Link.connect_cases`,
`Channel.flush_cases`, `Channel.send_cases`), for channels that are `Sound`: what waits in the batch waits for a link
that is up.  Laws about runs need only these cases.
-/

namespace MetricFeed

/-! ### Links -/

namespace Link

/-- The link after a dial at `now` that made it. -/
def dialled (l : Link) (now : Int) (outage : Outage) : Link :=
  { l with up := true, lastDial := some now, outage, dials := l.dials + 1 }

/-- The link after a dial at `now` that failed. -/
def missed (l : Link) (now : Int) (outage : Outage) : Link :=
  { l with lastDial := some now, outage, dials := l.dials + 1, failedDials := l.failedDials + 1 }

/-- The link after a block of `size` bytes went out. -/
def carried (l : Link) (size : Nat) : Link :=
  { l with writes := l.writes + 1, bytes := l.bytes + size }

/-- The link after a write that failed. -/
def dropped (l : Link) : Link :=
  { l with up := false, failedWrites := l.failedWrites + 1 }

/-- The link after it was taken down. -/
def lowered (l : Link) : Link :=
  { l with up := false }

theorem close_eq (l : Link) (w : World) : (l.close w).1 = l.lowered ∧ w.Leads [] (l.close w).2 := by
  unfold close
  split
  · exact ⟨rfl, w.leads_log _ _ _⟩
  · have down : l.up = false := by simpa using ‹¬l.up = true›
    -- a link that is down is left as it is
    have eq : l.lowered = l := by
      unfold lowered
      rw [← down]
    exact ⟨eq.symm, .refl w⟩

/-- What bringing a link up can come to. -/
inductive Connects (l : Link) (w : World) : Attempt DeliveryError Link Bool → Prop where
  | already (up : l.up = true) : Connects l w (.done false l w)
  | throttled (wait : Nat) (down : l.up = false) (early : l.wait? w.now = some wait) :
    Connects l w (.fail (.tryLater wait) l (w.record (.postponed w.now wait)))
  | linked (outage : Outage) (w' : World) (down : l.up = false) (due : l.wait? w.now = none)
    (outcome : w.network.dial w.dials l.target = .linked) (news : w.Leads [.dialed w.now .linked] w') :
    Connects l w (.done true (l.dialled w.now outage) w')
  | missed (e : DeliveryError) (outcome : DialOutcome) (outage : Outage) (w' : World) (down : l.up = false)
    (due : l.wait? w.now = none) (given : w.network.dial w.dials l.target = outcome)
    (failure : l.dialError? outcome = some e) (news : w.Leads [.dialed w.now outcome] w') :
    Connects l w (.fail e (l.missed w.now outage) w')

theorem leads_settle (o : Outage) (destination message : String) (w : World) :
    w.Leads [] (o.settle destination message w).world := by
  unfold Outage.settle
  split
  · exact w.leads_log _ _ _
  · exact .refl w

theorem leads_fail (o : Outage) (destination message : String) (w : World) :
    w.Leads [] (o.fail destination message w).world := by
  unfold Outage.fail
  split
  · exact w.leads_log _ _ _
  · exact w.leads_log _ _ _

theorem dial_cases (l : Link) (w : World) (down : l.up = false) (due : l.wait? w.now = none) :
    Connects l w (l.dial w) := by
  have news := w.leads_dial l.target
  unfold dial
  cases outcome : w.network.dial w.dials l.target with
  | linked =>
    have fst : (w.dial l.target).1 = .linked := outcome
    rw [fst] at news
    simp only [fst, dialError?]
    exact .linked _ _ down due outcome ((news.trans (World.leads_log _ _ _ _)).trans (leads_settle _ _ _ _))
  | refused reason =>
    have fst : (w.dial l.target).1 = .refused reason := outcome
    rw [fst] at news
    simp only [fst, dialError?]
    exact .missed _ _ _ _ down due outcome rfl (news.trans (leads_fail _ _ _ _))
  | unresolved reason =>
    have fst : (w.dial l.target).1 = .unresolved reason := outcome
    rw [fst] at news
    simp only [fst, dialError?]
    exact .missed _ _ _ _ down due outcome rfl (news.trans (leads_fail _ _ _ _))

theorem connect_cases (l : Link) (w : World) : Connects l w (l.connect w) := by
  unfold connect
  split
  · exact .already ‹_›
  · rename_i down
    have down : l.up = false := by simpa using down
    split
    · exact .throttled _ down ‹_›
    · exact dial_cases l w down ‹_›

/-- A dial that failed, failed for now. -/
theorem isTransient_of_dialError? {l : Link} {outcome : DialOutcome} {e : DeliveryError}
    (h : l.dialError? outcome = some e) : e.isTransient = true ∧ outcome ≠ .linked := by
  cases outcome with
  | linked => cases h
  | refused reason => cases h; exact ⟨rfl, by simp⟩
  | unresolved reason => cases h; exact ⟨rfl, by simp⟩

end Link

/-! ### Batches -/

namespace Batch

theorem text_eq_of_isEmpty {b : Batch} (h : b.isEmpty = true) : b.text = "" := by
  simpa [isEmpty] using h

theorem text_ne_of_isEmpty {b : Batch} (h : ¬b.isEmpty = true) : b.text ≠ "" := by
  simpa [isEmpty] using h

theorem fits_of_text_eq {b : Batch} {length : Nat} (h : b.text = "") (hl : length < b.capacity) :
    b.fits length = true := by
  simp only [fits, remaining, size, h, String.utf8ByteSize_empty, Nat.sub_zero, decide_eq_true_eq]
  omega

theorem push?_of_fits {b : Batch} {line : String} (h : b.fits line.utf8ByteSize = true) :
    b.push? line = some { b with text := b.text ++ line } :=
  if_pos h

theorem size_append_le {b : Batch} {line : String} (h : b.fits line.utf8ByteSize = true) (hb : b.size ≤ b.capacity) :
    (b.text ++ line).utf8ByteSize ≤ b.capacity := by
  have hf : line.utf8ByteSize ≤ b.capacity - b.size := of_decide_eq_true h
  have : (b.text ++ line).utf8ByteSize = b.size + line.utf8ByteSize := String.utf8ByteSize_append
  omega

end Batch

/-! ### Channels -/

namespace Channel

/-- What waits is within the capacity and waits for a link that is up, and nothing waits in a closed channel. -/
structure Sound (t : Channel) : Prop where
  linked : t.batch.text ≠ "" → t.link.up = true
  fits : t.batch.size ≤ t.batch.capacity
  closed : t.closed = true → t.batch.text = "" ∧ t.link.up = false

theorem sound_new (target : Target) (minInterval size flushInterval : Nat) (now : Int) :
    (Channel.new target minInterval size flushInterval now).Sound :=
  ⟨fun h => absurd rfl h, Nat.zero_le _, fun h => by cases h⟩

/-- What flushing a channel can come to. -/
inductive Flushes (t : Channel) (timeout : Nat) (w : World) : Attempt DeliveryError Channel Unit → Prop where
  | waiting (timed : timeout ≠ 0) (young : t.batch.age w.now < timeout) : Flushes t timeout w (.done () t w)
  | nothing (due : timeout = 0 ∨ timeout ≤ t.batch.age w.now) (empty : t.batch.text = "") :
    Flushes t timeout w (.done () { t with batch := t.batch.touch w.now } w)
  | written (w' : World) (due : timeout = 0 ∨ timeout ≤ t.batch.age w.now) (full : t.batch.text ≠ "")
    (up : t.link.up = true) (news : w.Leads [.wrote t.batch.text .delivered] w') :
    Flushes t timeout w (.done () { t with batch := t.batch.reset w.now, link := t.link.carried t.batch.size } w')
  | lost (reason : String) (w' : World) (due : timeout = 0 ∨ timeout ≤ t.batch.age w.now) (full : t.batch.text ≠ "")
    (up : t.link.up = true) (outcome : w.network.write w.writes = .failed reason)
    (news : w.Leads [.wrote t.batch.text (.failed reason)] w') :
    Flushes t timeout w
      (.fail (.broken t.link.target reason) { t with batch := t.batch.reset w.now, link := t.link.dropped } w')

theorem writeBatch_cases {t : Channel} {timeout : Nat} {w : World} (due : timeout = 0 ∨ timeout ≤ t.batch.age w.now)
    (full : t.batch.text ≠ "") (up : t.link.up = true) : Flushes t timeout w (t.writeBatch w) := by
  have news := w.leads_write t.batch.text
  unfold writeBatch Link.write
  cases outcome : w.network.write w.writes with
  | delivered =>
    have eq : w.write t.batch.text = (.delivered, (w.write t.batch.text).2) := Prod.ext outcome rfl
    rw [show (w.write t.batch.text).1 = .delivered from outcome] at news
    rw [if_pos up, eq]
    exact .written _ due full up (news.trans (World.leads_log _ _ _ _))
  | failed reason =>
    have eq : w.write t.batch.text = (.failed reason, (w.write t.batch.text).2) := Prod.ext outcome rfl
    rw [show (w.write t.batch.text).1 = .failed reason from outcome] at news
    rw [if_pos up, eq]
    exact .lost _ _ due full up outcome (news.trans (World.leads_log _ _ _ _))

theorem flush_cases {t : Channel} (linked : t.batch.text ≠ "" → t.link.up = true) (timeout : Nat) (w : World) :
    Flushes t timeout w (t.flush timeout w) := by
  unfold flush
  split
  · rename_i h
    simp only [ne_eq, decide_not, Bool.and_eq_true, Bool.not_eq_eq_eq_not, Bool.not_true, decide_eq_false_iff_not,
      decide_eq_true_eq] at h
    exact .waiting h.1 h.2
  · rename_i h
    simp only [ne_eq, decide_not, Bool.and_eq_true, Bool.not_eq_eq_eq_not, Bool.not_true, decide_eq_false_iff_not,
      decide_eq_true_eq] at h
    have due : timeout = 0 ∨ timeout ≤ t.batch.age w.now := by omega
    split
    · exact .nothing due (Batch.text_eq_of_isEmpty ‹_›)
    · have full := Batch.text_ne_of_isEmpty ‹¬t.batch.isEmpty = true›
      exact writeBatch_cases due full (linked full)

/-- What a line handed to a channel can come to. -/
inductive Sends (t : Channel) (line : String) (w : World) : Attempt DeliveryError Channel Unit → Prop where
  | closed (isClosed : t.closed = true) : Sends t line w (.fail .closed t w)
  | tooLong (isOpen : t.closed = false) (long : t.batch.capacity ≤ line.utf8ByteSize) :
    Sends t line w (.fail (.lineTooLong line.utf8ByteSize t.batch.capacity) t w)
  | throttled (wait : Nat) (isOpen : t.closed = false) (down : t.link.up = false)
    (early : t.link.wait? w.now = some wait) :
    Sends t line w (.fail (.tryLater wait) t (w.record (.postponed w.now wait)))
  | missed (e : DeliveryError) (outcome : DialOutcome) (outage : Outage) (w' : World) (isOpen : t.closed = false)
    (down : t.link.up = false) (due : t.link.wait? w.now = none)
    (given : w.network.dial w.dials t.link.target = outcome) (failure : t.link.dialError? outcome = some e)
    (news : w.Leads [.dialed w.now outcome] w') :
    Sends t line w (.fail e { t with link := t.link.missed w.now outage } w')
  | lost (reason : String) (w' : World) (isOpen : t.closed = false) (full : t.batch.text ≠ "") (up : t.link.up = true)
    (outcome : ∃ n, w.network.write n = .failed reason)
    (news : w.Leads [.wrote t.batch.text (.failed reason)] w') :
    Sends t line w
      (.fail (.broken t.link.target reason) { t with batch := t.batch.reset w.now, link := t.link.dropped } w')
  | appended (opened : Int) (w' : World) (isOpen : t.closed = false) (up : t.link.up = true)
    (fits : t.batch.fits line.utf8ByteSize = true)
    (age : opened = t.batch.openedAt ∧ t.batch.age w.now < t.flushInterval ∨ opened = w.now ∧ t.batch.text = "")
    (news : w.Leads [.accepted w.now line] w') :
    Sends t line w (.done () { t with batch := { t.batch with text := t.batch.text ++ line, openedAt := opened } } w')
  | begun (outage : Outage) (w' : World) (isOpen : t.closed = false) (short : line.utf8ByteSize < t.batch.capacity)
    (down : t.link.up = false) (due : t.link.wait? w.now = none) (empty : t.batch.text = "")
    (news : w.Leads [.accepted w.now line, .dialed w.now .linked] w') :
    Sends t line w (.done () { t with
      batch := { t.batch with text := line, openedAt := w.now }, link := t.link.dialled w.now outage } w')
  | moved (w' : World) (isOpen : t.closed = false) (short : line.utf8ByteSize < t.batch.capacity)
    (up : t.link.up = true) (full : t.batch.text ≠ "")
    (news : w.Leads [.accepted w.now line, .wrote t.batch.text .delivered] w') :
    Sends t line w (.done () { t with
      batch := { t.batch with text := line, openedAt := w.now }, link := t.link.carried t.batch.size } w')

theorem append_of_fits {t : Channel} {line : String} (fits : t.batch.fits line.utf8ByteSize = true) (w : World) :
    t.append line w =
      .done () { t with batch := { t.batch with text := t.batch.text ++ line } } (w.record (.accepted w.now line)) := by
  unfold append
  rw [Batch.push?_of_fits fits]

/-- A channel with an empty batch takes any line that is short enough. -/
theorem makeRoom_append_of_empty {t : Channel} {line : String} (short : line.utf8ByteSize < t.batch.capacity)
    (empty : t.batch.text = "") (w : World) :
    ((t.makeRoom line.utf8ByteSize w).andThen fun _ t w => t.append line w) =
      .done () { t with batch := { t.batch with text := line } } (w.record (.accepted w.now line)) := by
  have fits := Batch.fits_of_text_eq empty short
  unfold makeRoom
  rw [if_pos fits, Attempt.done_andThen, append_of_fits fits, empty, String.empty_append]

/-- There is nothing to flush in a batch that has just been opened. -/
theorem flush_of_empty {t : Channel} {w : World} (empty : t.batch.text = "") (opened : t.batch.openedAt = w.now)
    (timeout : Nat) : t.flush timeout w = .done () t w := by
  unfold flush
  split
  · rfl
  · have touched : t.batch.touch w.now = t.batch := by rw [← opened]; rfl
    rw [if_pos (by simp [Batch.isEmpty, empty]), touched]

/-- On a link that is up: the batch is flushed if it is due, room is made, and the line is added. -/
theorem fill_cases {t : Channel} (ht : t.Sound) {line : String} (w : World) (isOpen : t.closed = false)
    (up : t.link.up = true) (short : line.utf8ByteSize < t.batch.capacity) :
    Sends t line w ((t.flush t.flushInterval w).andThen fun _ t w =>
      (t.makeRoom line.utf8ByteSize w).andThen fun _ t w => t.append line w) := by
  have record : ∀ w₁ : World, w₁.Leads [.accepted w₁.now line] (w₁.record (.accepted w₁.now line)) :=
    fun w₁ => w₁.leads_record rfl
  have h := flush_cases ht.linked t.flushInterval w
  generalize t.flush t.flushInterval w = r at h
  cases h with
  | waiting timed young =>
    rw [Attempt.done_andThen]
    unfold makeRoom
    split
    · rename_i fits
      rw [Attempt.done_andThen, append_of_fits fits]
      exact .appended t.batch.openedAt _ isOpen up fits (.inl ⟨rfl, young⟩) (record w)
    · rename_i tight
      -- a line that is short enough for an empty batch has no room only because lines wait
      have full : t.batch.text ≠ "" := fun empty => tight (Batch.fits_of_text_eq empty short)
      have h := flush_cases ht.linked 0 w
      generalize t.flush 0 w = r at h
      cases h with
      | waiting timed => exact absurd rfl timed
      | nothing _ empty => exact absurd empty full
      | written w' _ _ _ news =>
        have fits := Batch.fits_of_text_eq (b := t.batch.reset w.now) rfl short
        rw [Attempt.done_andThen, append_of_fits fits]
        have news' := news.trans (record w')
        rw [news.now] at news' ⊢
        exact .moved _ isOpen short up full news'
      | lost reason w' _ _ _ outcome news => exact .lost reason w' isOpen full up ⟨_, outcome⟩ news
  | nothing due empty =>
    rw [Attempt.done_andThen, makeRoom_append_of_empty (t := { t with batch := t.batch.touch w.now }) short empty]
    have fits := Batch.fits_of_text_eq empty short
    have appended := Sends.appended w.now _ isOpen up fits (.inr ⟨rfl, empty⟩) (record w)
    rw [empty, String.empty_append] at appended
    exact appended
  | written w' due full _ news =>
    let t' : Channel := { t with batch := t.batch.reset w.now, link := t.link.carried t.batch.size }
    rw [Attempt.done_andThen, makeRoom_append_of_empty (t := t') short rfl]
    have news' := news.trans (record w')
    rw [news.now] at news' ⊢
    exact .moved _ isOpen short up full news'
  | lost reason w' due full _ outcome news =>
    rw [Attempt.fail_andThen]
    exact .lost reason w' isOpen full up ⟨_, outcome⟩ news

theorem send_cases {t : Channel} (ht : t.Sound) (line : String) (w : World) : Sends t line w (t.send line w) := by
  unfold send
  dsimp only
  split
  · exact .closed ‹_›
  · have isOpen : t.closed = false := by simpa using ‹¬t.closed = true›
    split
    · exact .tooLong isOpen ‹_›
    · have short : line.utf8ByteSize < t.batch.capacity := Nat.lt_of_not_le ‹_›
      have h := t.link.connect_cases w
      unfold connect
      generalize t.link.connect w = r at h
      cases h with
      | already up => exact fill_cases ht w isOpen up short
      | throttled wait down early => exact .throttled wait isOpen down early
      | missed e outcome outage w' down due given failure news =>
        exact .missed e outcome outage w' isOpen down due given failure news
      | linked outage w' down due outcome news =>
        -- lines would wait for a link that is up, so the reset of the batch loses none
        have empty : t.batch.text = "" := Classical.byContradiction fun full => by simp [ht.linked full] at down
        let t' (now : Int) : Channel := { t with batch := t.batch.reset now, link := t.link.dialled w.now outage }
        show Sends t line w ((Attempt.done () (t' w'.now) w').andThen _)
        rw [Attempt.done_andThen, flush_of_empty rfl rfl, Attempt.done_andThen,
          makeRoom_append_of_empty (t := t' w'.now) short rfl]
        have news' := news.trans (w'.leads_record (e := .accepted w'.now line) rfl)
        rw [news.now] at news' ⊢
        exact .begun outage _ isOpen short down due empty news'

/-- What shutting a channel down can come to. -/
inductive Ends (t : Channel) (w : World) : Attempt DeliveryError Channel Unit → Prop where
  | already (isClosed : t.closed = true) : Ends t w (.done () t w)
  | nothing (w' : World) (isOpen : t.closed = false) (empty : t.batch.text = "") (news : w.Leads [] w') :
    Ends t w (.done () { t with batch := t.batch.touch w.now, link := t.link.lowered, closed := true } w')
  | written (w' : World) (isOpen : t.closed = false) (full : t.batch.text ≠ "") (up : t.link.up = true)
    (news : w.Leads [.wrote t.batch.text .delivered] w') :
    Ends t w (.done () { t with
      batch := t.batch.reset w.now, link := (t.link.carried t.batch.size).lowered, closed := true } w')
  | lost (reason : String) (w' : World) (isOpen : t.closed = false) (full : t.batch.text ≠ "") (up : t.link.up = true)
    (outcome : w.network.write w.writes = .failed reason)
    (news : w.Leads [.wrote t.batch.text (.failed reason)] w') :
    Ends t w (.fail (.broken t.link.target reason) { t with
      batch := t.batch.reset w.now, link := t.link.dropped.lowered, closed := true } w')

theorem shutdown_cases {t : Channel} (ht : t.Sound) (w : World) : Ends t w (t.shutdown w) := by
  unfold shutdown
  split
  · exact .already ‹_›
  · have isOpen : t.closed = false := by simpa using ‹¬t.closed = true›
    have h := flush_cases (t := { t with closed := true }) ht.linked 0 w
    generalize flush { t with closed := true } 0 w = r at h
    cases h with
    | waiting timed => exact absurd rfl timed
    | nothing _ empty =>
      obtain ⟨eq, news⟩ := t.link.close_eq w
      simp only [Attempt.done, eq]
      exact .nothing _ isOpen empty news
    | written w' _ full up news =>
      obtain ⟨eq, news'⟩ := (t.link.carried t.batch.size).close_eq w'
      simp only [Attempt.done, eq]
      exact .written _ isOpen full up (news.trans news')
    | lost reason w' _ full up outcome news =>
      obtain ⟨eq, news'⟩ := t.link.dropped.close_eq w'
      simp only [Attempt.fail, eq]
      exact .lost reason _ isOpen full up outcome (news.trans news')

/-! ### Soundness is kept up -/

theorem Flushes.sound {t : Channel} {timeout : Nat} {w : World} {r : Attempt DeliveryError Channel Unit} (ht : t.Sound)
    (h : Flushes t timeout w r) : r.state.Sound := by
  cases h with
  | waiting => exact ht
  | nothing => exact ⟨ht.linked, ht.fits, ht.closed⟩
  | written _ _ full => exact ⟨fun h => absurd rfl h, Nat.zero_le _, fun isClosed => absurd (ht.closed isClosed).1 full⟩
  | lost _ _ _ full => exact ⟨fun h => absurd rfl h, Nat.zero_le _, fun isClosed => absurd (ht.closed isClosed).1 full⟩

theorem Sends.sound {t : Channel} {line : String} {w : World} {r : Attempt DeliveryError Channel Unit} (ht : t.Sound)
    (h : Sends t line w r) : r.state.Sound := by
  have clash : t.closed = false → t.closed = true → False := fun isOpen isClosed => by simp [isOpen] at isClosed
  cases h with
  | closed => exact ht
  | tooLong => exact ht
  | throttled => exact ht
  | missed e outcome outage w' isOpen => exact ⟨ht.linked, ht.fits, fun h => (clash isOpen h).elim⟩
  | lost reason w' isOpen => exact ⟨fun h => absurd rfl h, Nat.zero_le _, fun h => (clash isOpen h).elim⟩
  | appended opened w' isOpen up fits =>
    exact ⟨fun _ => up, Batch.size_append_le fits ht.fits, fun h => (clash isOpen h).elim⟩
  | begun outage w' isOpen short => exact ⟨fun _ => rfl, Nat.le_of_lt short, fun h => (clash isOpen h).elim⟩
  | moved w' isOpen short up => exact ⟨fun _ => up, Nat.le_of_lt short, fun h => (clash isOpen h).elim⟩

theorem Ends.sound {t : Channel} {w : World} {r : Attempt DeliveryError Channel Unit} (ht : t.Sound)
    (h : Ends t w r) : r.state.Sound := by
  cases h with
  | already => exact ht
  | nothing w' _ empty => exact ⟨fun full => absurd empty full, ht.fits, fun _ => ⟨empty, rfl⟩⟩
  | written => exact ⟨fun h => absurd rfl h, Nat.zero_le _, fun _ => ⟨rfl, rfl⟩⟩
  | lost => exact ⟨fun h => absurd rfl h, Nat.zero_le _, fun _ => ⟨rfl, rfl⟩⟩

/-! ### What every move keeps, and which lines it accepts -/

section

variable {t : Channel} {line : String} {timeout : Nat} {w : World} {r : Attempt DeliveryError Channel Unit}

theorem Flushes.capacity (h : Flushes t timeout w r) : r.state.batch.capacity = t.batch.capacity := by
  cases h <;> rfl

theorem Sends.capacity (h : Sends t line w r) : r.state.batch.capacity = t.batch.capacity := by
  cases h <;> rfl

theorem Ends.capacity (h : Ends t w r) : r.state.batch.capacity = t.batch.capacity := by
  cases h <;> rfl

theorem Flushes.acceptedLines (h : Flushes t timeout w r) : r.world.acceptedLines = w.acceptedLines := by
  cases h with
  | waiting => rfl
  | nothing => rfl
  | written w' _ _ _ news => exact news.acceptedLines.trans (List.append_nil _)
  | lost reason w' _ _ _ _ news => exact news.acceptedLines.trans (List.append_nil _)

/-- The line is accepted exactly when there is no error. -/
theorem Sends.acceptedLines (h : Sends t line w r) :
    r.world.acceptedLines = w.acceptedLines ++ if r.result.isOk then [line] else [] := by
  cases h with
  | closed => exact (List.append_nil _).symm
  | tooLong => exact (List.append_nil _).symm
  | throttled => exact (w.leads_record rfl).acceptedLines
  | missed e outcome outage w' _ _ _ _ _ news => exact news.acceptedLines
  | lost reason w' _ _ _ _ news => exact news.acceptedLines
  | appended opened w' _ _ _ _ news => exact news.acceptedLines
  | begun outage w' _ _ _ _ _ news => exact news.acceptedLines
  | moved w' _ _ _ _ news => exact news.acceptedLines

theorem Ends.acceptedLines (h : Ends t w r) : r.world.acceptedLines = w.acceptedLines := by
  cases h with
  | already => rfl
  | nothing w' _ _ news => exact news.acceptedLines.trans (List.append_nil _)
  | written w' _ _ _ news => exact news.acceptedLines.trans (List.append_nil _)
  | lost reason w' _ _ _ _ news => exact news.acceptedLines.trans (List.append_nil _)

/-- Of a refused line nothing is in the channel; what waited may have been lost on the way. -/
theorem Sends.refused (h : Sends t line w r) {e : DeliveryError} (hr : r.result = .error e) :
    (r.world.handed = w.handed ∧ r.state.batch.text = t.batch.text) ∨
      ∃ reason, r.world.handed = w.handed ++ [(t.batch.text, .failed reason)] ∧ r.state.batch.text = "" := by
  cases h with
  | closed => exact .inl ⟨rfl, rfl⟩
  | tooLong => exact .inl ⟨rfl, rfl⟩
  | throttled => exact .inl ⟨(w.leads_record rfl).handed.trans (List.append_nil _), rfl⟩
  | missed e outcome outage w' _ _ _ _ _ news => exact .inl ⟨news.handed.trans (List.append_nil _), rfl⟩
  | lost reason w' _ _ _ _ news => exact .inr ⟨reason, news.handed, rfl⟩
  | appended => cases hr
  | begun => cases hr
  | moved => cases hr

end

end Channel

end MetricFeed
