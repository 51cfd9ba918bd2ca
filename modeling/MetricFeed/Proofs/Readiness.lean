import MetricFeed.Proofs.Closing
import MetricFeed.Proofs.Fates
import MetricFeed.Proofs.Pacing

/-!
# Channels are ready

Lines wait only for a link that is up, and never more of them than the batch can hold.  Before a line is appended the
channel is prepared for it (`Channel.prepare`): it is linked, a batch that is due is written, and room is made.
Whatever fails on the way, the channel stays `Open`, and if nothing fails, the line fits.  So no operation finds the
link down with something to write, no line is lost to a new link, and a line costs at most one dial and one write
(`Channel.pending_implies_linked`).
-/

namespace MetricFeed

/-- Only a link that was down is newly made. -/
theorem Link.down_of_fresh {l : Link} {w : World} (fresh : (l.connect w).result = .ok true) : l.up = false := by
  by_contra up
  rw [Bool.not_eq_false] at up
  unfold connect at fresh
  rw [if_pos up] at fresh
  cases fresh

namespace Channel

variable {t : Channel} {line : String} {timeout length capacity : Nat} {w : World}
  {r : Attempt DeliveryError Channel Unit}

/-! ### Before a line is appended -/

/-- Bring the link up, and write the batch if it is due. -/
def refresh (t : Channel) (w : World) : Attempt DeliveryError Channel Unit :=
  (t.connect w).andThen fun _ t w =>
  t.flush t.flushInterval w

/-- All that is done for a line of this length before it is appended. -/
def prepare (t : Channel) (length : Nat) (w : World) : Attempt DeliveryError Channel Unit :=
  (t.refresh w).andThen fun _ t w =>
  t.makeRoom length w

/-- A line that is not refused at once is prepared for and appended. -/
theorem send_eq_prepare (isOpen : t.closed = false) (short : line.utf8ByteSize < t.batch.capacity) (w : World) :
    t.send line w = (t.prepare line.utf8ByteSize w).andThen fun _ t w => t.append line w := by
  unfold send prepare refresh
  dsimp only
  rw [if_neg (by simp [isOpen]), if_neg (Nat.not_le.2 short), Attempt.andThen_assoc, Attempt.andThen_assoc]

theorem Flushes.closed_eq (h : Flushes t timeout w r) : r.state.closed = t.closed := by
  cases h <;> rfl

namespace Open

variable (ready : t.Open capacity)

include ready

theorem connect (w : World) : (t.connect w).state.Open capacity := by
  have connects := t.link.connect_cases w
  obtain ⟨sound, isOpen, capacity⟩ := ready
  unfold Channel.connect
  generalize t.link.connect w = r at connects
  cases connects with
  | already => exact ⟨sound, isOpen, capacity⟩
  | throttled => exact ⟨sound, isOpen, capacity⟩
  | missed => exact ⟨⟨sound.linked, sound.fits, sound.closed⟩, isOpen, capacity⟩
  | linked =>
    -- the batch is reset, so nothing waits and everything fits
    have notClosed : ¬t.closed = true := by simp [isOpen]
    exact ⟨⟨fun full => absurd rfl full, Nat.zero_le _, fun isClosed => absurd isClosed notClosed⟩, isOpen, capacity⟩

theorem flush (timeout : Nat) (w : World) : (t.flush timeout w).state.Open capacity := by
  have flushes := flush_cases ready.sound.linked timeout w
  exact ⟨flushes.sound ready.sound, flushes.closed_eq.trans ready.isOpen, flushes.capacity.trans ready.capacity⟩

theorem makeRoom (length : Nat) (w : World) : (t.makeRoom length w).state.Open capacity := by
  unfold Channel.makeRoom
  split
  · exact ready
  · exact ready.flush 0 w

theorem refresh (w : World) : (t.refresh w).state.Open capacity :=
  Attempt.andThen_induction (fun t _ => Open capacity t) (ready.connect w) fun _ _ _ ready => ready.flush _ _

theorem prepare (length : Nat) (w : World) : (t.prepare length w).state.Open capacity :=
  Attempt.andThen_induction (fun t _ => Open capacity t) (ready.refresh w) fun _ _ _ ready => ready.makeRoom _ _

/-- Room was made, or there was an error. -/
theorem fits_makeRoom (short : length < capacity) (w : World) (done : (t.makeRoom length w).result = .ok ()) :
    (t.makeRoom length w).state.batch.fits length = true := by
  rw [← ready.capacity] at short
  unfold Channel.makeRoom at done ⊢
  split at done
  · rename_i fits
    rw [if_pos fits]
    exact fits
  · rename_i tight
    rw [if_neg tight]
    have flushes := flush_cases ready.sound.linked 0 w
    generalize t.flush 0 w = r at flushes done ⊢
    cases flushes with
    | waiting timed => exact absurd rfl timed
    | nothing _ empty => exact Batch.fits_of_text_eq (b := t.batch.touch w.now) empty short
    | written => exact Batch.fits_of_text_eq (b := t.batch.reset w.now) rfl short
    | lost => cases done

/-- A line that the channel was prepared for is taken. -/
theorem append_prepared (short : line.utf8ByteSize < capacity) (w : World)
    (done : (t.prepare line.utf8ByteSize w).result = .ok ()) :
    let r := t.prepare line.utf8ByteSize w
    (r.state.append line r.world).result = .ok () := by
  have ready := ready.refresh w
  unfold Channel.prepare at done ⊢
  cases result : (t.refresh w).result with
  | error e =>
    rw [Attempt.andThen_of_error result] at done
    cases done
  | ok _ =>
    rw [Attempt.andThen_of_ok result] at done ⊢
    dsimp only
    rw [append_of_fits (ready.fits_makeRoom short _ done)]
    rfl

end Open

/-! ### Single operations -/

/-- A line costs at most one dial and one write. -/
theorem Sends.costs (h : Sends t line w r) :
    r.world.dialTimes.length ≤ w.dialTimes.length + 1 ∧ r.world.handed.length ≤ w.handed.length + 1 := by
  have costs {news : List Event} {w' : World} (leads : w.Leads news w')
      (dials : (news.filterMap Event.dialTime?).length ≤ 1) (writes : (news.filterMap Event.handed?).length ≤ 1) :
      w'.dialTimes.length ≤ w.dialTimes.length + 1 ∧ w'.handed.length ≤ w.handed.length + 1 := by
    rw [leads.dialTimes, leads.handed, List.length_append, List.length_append, List.length_reverse, List.length_reverse]
    omega
  have none : ∀ n : Nat, n ≤ n + 1 := Nat.le_succ
  cases h with
  | closed => exact ⟨none _, none _⟩
  | tooLong => exact ⟨none _, none _⟩
  | throttled => exact costs (w.leads_record rfl) (Nat.zero_le _) (Nat.zero_le _)
  | missed e outcome outage w' _ _ _ _ _ news => exact costs news (Nat.le_refl _) (Nat.zero_le _)
  | lost reason w' _ _ _ _ news => exact costs news (Nat.zero_le _) (Nat.le_refl _)
  | appended opened w' _ _ _ _ news => exact costs news (Nat.zero_le _) (Nat.zero_le _)
  | begun outage w' _ _ _ _ _ news => exact costs news (Nat.le_refl _) (Nat.zero_le _)
  | moved w' _ _ _ _ news => exact costs news (Nat.zero_le _) (Nat.le_refl _)

theorem Flushes.ne_notLinked (h : Flushes t timeout w r) (target : Target) : r.result ≠ .error (.notLinked target) := by
  cases h <;> exact nofun

theorem Sends.ne_notLinked (h : Sends t line w r) (target : Target) : r.result ≠ .error (.notLinked target) := by
  cases h with
  | missed e outcome outage w' _ _ _ _ failure =>
    cases outcome with
    | linked => cases failure
    | refused => cases failure; exact nofun
    | unresolved => cases failure; exact nofun
  | _ => exact nofun

theorem Ends.ne_notLinked (h : Ends t w r) (target : Target) : r.result ≠ .error (.notLinked target) := by
  cases h <;> exact nofun

theorem Sound.ne_notLinked (sound : t.Sound) (op : Op) (w : World) (target : Target) :
    (act op t w).result ≠ .error (.notLinked target) := by
  cases op with
  | send line => exact (send_cases sound line w).ne_notLinked target
  | flush timeout => exact (flush_cases sound.linked timeout w).ne_notLinked target
  | shutdown => exact (shutdown_cases sound w).ne_notLinked target

/-- A link that has to be brought up has nothing waiting for it. -/
theorem Sound.empty_of_down (sound : t.Sound) (down : t.link.up = false) : t.batch.text = "" := by
  by_contra full
  rw [sound.linked full] at down
  cases down

/-- After any run of a channel, whatever its dials and writes came to and whatever the clocks showed, lines wait only
for a link that is up, and they are within the capacity.  The next operation does not find the link down with something
to write; a new link has no lines to lose; a flush succeeds while the link is down; and a line costs at most one dial
and one write.  If a line is not refused at once, the batch stays within its capacity while the channel is prepared for
it, and once that is done the line is taken. -/
theorem pending_implies_linked (target : Target) (minInterval size flushInterval : Nat) (network : Network)
    (now wall : Int) (machine : HostAnswer) (calls : List (Call Op)) :
    let k := Course.run act (.new target minInterval size flushInterval now) (.fresh network now wall machine) calls
    let t := k.state
    (t.batch.text ≠ "" → t.link.up = true) ∧ t.batch.size ≤ t.batch.capacity ∧
    ∀ c : Call Unit,
      let w := k.world.atCall c
      (∀ op target, (act op t w).result ≠ .error (.notLinked target)) ∧
      ((t.link.connect w).result = .ok true → t.batch.text = "") ∧
      (t.link.up = false → ∀ timeout, (t.flush timeout w).result = .ok ()) ∧
      ∀ line,
        (t.send line w).world.dialTimes.length ≤ w.dialTimes.length + 1 ∧
        (t.send line w).world.handed.length ≤ w.handed.length + 1 ∧
        (t.closed = false → line.utf8ByteSize < t.batch.capacity →
          let fresh := t.refresh w
          let ready := t.prepare line.utf8ByteSize w
          t.send line w = ready.andThen (fun _ t w => t.append line w) ∧
          fresh.state.batch.size ≤ fresh.state.batch.capacity ∧
          ready.state.batch.size ≤ ready.state.batch.capacity ∧
          (ready.result = .ok () → (ready.state.append line ready.world).result = .ok ())) := by
  intro k t
  obtain ⟨account, -⟩ := accounted_run target minInterval size flushInterval network now wall machine calls
  have sound : t.Sound := account.sound
  refine ⟨sound.linked, sound.fits, fun c => ?_⟩
  intro w
  refine ⟨fun op target => sound.ne_notLinked op w target, ?_, ?_, fun line => ?_⟩
  · exact fun fresh => sound.empty_of_down (Link.down_of_fresh fresh)
  · intro down timeout
    exact ((flush_cases sound.linked timeout w).of_empty (sound.empty_of_down down)).1
  · obtain ⟨dials, writes⟩ := (send_cases sound line w).costs
    refine ⟨dials, writes, fun isOpen short => ?_⟩
    have ready : t.Open t.batch.capacity := ⟨sound, isOpen, rfl⟩
    exact ⟨send_eq_prepare isOpen short w, (ready.refresh w).sound.fits, (ready.prepare _ w).sound.fits,
      ready.append_prepared short w⟩

/-- A second line that waits with the first one. -/
theorem pending_implies_linked_second :
    let k := Course.run act (.new ⟨"h", 1, .tcp⟩ 0 9 60000 0) (.fresh .ideal 0 0 (.name []))
      [⟨.send "ab", 1, 1, .name []⟩]
    let w := k.world.atCall ⟨(), 2, 2, .name []⟩
    let ready := k.state.prepare 2 w
    k.state.batch.text = "ab" ∧ k.state.link.up = true ∧ ready.result = .ok () ∧
      (ready.state.append "cd" ready.world).result = .ok () := by
  intro k w ready
  have laws := pending_implies_linked ⟨"h", 1, .tcp⟩ 0 9 60000 .ideal 0 0 (.name []) [⟨.send "ab", 1, 1, .name []⟩]
  have taken := ((laws.2.2 ⟨(), 2, 2, .name []⟩).2.2.2 "cd").2.2 (by decide) (by decide)
  exact ⟨by decide, laws.1 (by decide), by decide, taken.2.2.2 (by decide)⟩

end Channel

end MetricFeed
