import MetricFeed.Proofs.Fates
import MetricFeed.Proofs.Upkeep

/-!
# Tallies

A writer counts what becomes of everything: the lines and properties it has sent, the values it has suppressed, the
samples it has written and turned down, the errors that may pass and the bytes delivered.
-/

namespace MetricFeed

namespace Command

/-- The line begins with the word of a property. -/
def isPropertyLine (line : String) : Bool :=
  "property ".toList.isPrefixOf line.toList

theorem isPropertyLine_of_line {c : Command} {line : String} (h : c.line = .ok line) :
    isPropertyLine line = c.isProperty := by
  cases c with
  | series entity name value tags time =>
    obtain ⟨entityText, -, h⟩ := of_bind_eq_ok h
    obtain ⟨nameText, -, h⟩ := of_bind_eq_ok h
    obtain ⟨tagsText, -, h⟩ := of_bind_eq_ok h
    cases h
    simp [isPropertyLine, isProperty, String.toList_append, List.isPrefixOf]
  | metric name tags =>
    obtain ⟨nameText, -, h⟩ := of_bind_eq_ok h
    obtain ⟨tagsText, -, h⟩ := of_bind_eq_ok h
    cases h
    simp [isPropertyLine, isProperty, String.toList_append, List.isPrefixOf]
  | property entity time type values =>
    obtain ⟨entityText, -, h⟩ := of_bind_eq_ok h
    obtain ⟨typeText, -, h⟩ := of_bind_eq_ok h
    obtain ⟨valuesText, -, h⟩ := of_bind_eq_ok h
    cases h
    simp [isPropertyLine, isProperty, String.toList_append, List.isPrefixOf]

/-- Lines of commands among which there are no properties. -/
theorem countP_isPropertyLine {commands : List Command} {lines : List String}
    (h : commands.map line = lines.map Except.ok) (values : ∀ c ∈ commands, c.isProperty = false) :
    lines.countP isPropertyLine = 0 := by
  rw [List.countP_eq_zero]
  intro text mem
  have mem : Except.ok text ∈ commands.map line := by
    rw [h]
    exact List.mem_map_of_mem mem
  obtain ⟨c, hc, rendered⟩ := List.mem_map.1 mem
  rw [isPropertyLine_of_line rendered, values c hc]
  decide

end Command

/-! ### Bytes -/

/-- The number of bytes of all blocks delivered. -/
def World.deliveredBytes (w : World) : Nat :=
  (String.join w.deliveredBlocks).utf8ByteSize

namespace Channel

variable {t : Channel} {w w' : World} {news : List Event}

theorem deliveredBytes_of_calm (leads : w.Leads news w') (calm : news.filterMap Event.delivered? = []) :
    w'.deliveredBytes = w.deliveredBytes := by
  unfold World.deliveredBytes
  rw [leads.deliveredBlocks, calm, List.reverse_nil, List.append_nil]

theorem bytes_of_delivered (h : t.link.bytes = w.deliveredBytes) (leads : w.Leads news w')
    (delivered : news.filterMap Event.delivered? = [t.batch.text]) :
    (t.link.carried t.batch.size).bytes = w'.deliveredBytes := by
  unfold World.deliveredBytes at h ⊢
  rw [leads.deliveredBlocks, delivered, List.reverse_singleton, String.join_append, String.utf8ByteSize_append, ← h,
    String.join_cons, String.join_nil, String.append_empty]
  rfl

/-- The link has counted the bytes of all blocks delivered. -/
theorem upheld_bytes : Upheld fun t w => t.link.bytes = w.deliveredBytes where
  note h notes := by
    rw [deliveredBytes_of_calm notes rfl]
    exact h
  send _ h sends := by
    cases sends with
    | closed => exact h
    | tooLong => exact h
    | throttled wait => exact h.trans (deliveredBytes_of_calm (World.leads_record _ rfl) rfl).symm
    | missed e outcome outage w' _ _ _ _ _ news => exact h.trans (deliveredBytes_of_calm news rfl).symm
    | lost reason w' _ _ _ _ news => exact h.trans (deliveredBytes_of_calm news rfl).symm
    | appended opened w' _ _ _ _ news => exact h.trans (deliveredBytes_of_calm news rfl).symm
    | begun outage w' _ _ _ _ _ news => exact h.trans (deliveredBytes_of_calm news rfl).symm
    | moved w' _ _ _ _ news => exact bytes_of_delivered h news rfl
  flush _ h flushes := by
    cases flushes with
    | waiting => exact h
    | nothing => exact h
    | written w' _ _ _ news => exact bytes_of_delivered h news rfl
    | lost reason w' _ _ _ _ news => exact h.trans (deliveredBytes_of_calm news rfl).symm
  shutdown _ h ends := by
    cases ends with
    | already => exact h
    | nothing w' _ _ news => exact h.trans (deliveredBytes_of_calm news rfl).symm
    | written w' _ _ _ news => exact bytes_of_delivered h news rfl
    | lost reason w' _ _ _ _ news => exact h.trans (deliveredBytes_of_calm news rfl).symm

end Channel

/-! ### What is counted -/

namespace WriteError

/-- The sample is invalid, or its entity is not found. -/
def isInvalid : WriteError → Bool
  | .sample _ => true
  | .name _ => true
  | _ => false

end WriteError

namespace Writer

/-- A sample was written. -/
def wasWritten : Op × Except WriteError Answer → Bool
  | (.write _, .ok _) => true
  | _ => false

/-- A sample was turned down before any of its values. -/
def wasTurnedDown : Op × Except WriteError Answer → Bool
  | (.write _, .error e) => e.isInvalid
  | _ => false

/-- An error that may pass was returned, and not by a shutdown. -/
def wasPutOff : Op × Except WriteError Answer → Bool
  | (.shutdown, _) => false
  | (_, result) => WriteError.isTransientIn result

/-- The counts of lines, properties and suppressed values are right. -/
structure Tallied (x : Writer) (w : World) : Prop where
  lines : x.counts.linesSent = w.acceptedLines.length
  properties : x.counts.propertiesSent = w.acceptedLines.countP Command.isPropertyLine
  suppressed : x.counts.valuesSuppressed = x.filter.suppressed

/-- An operation, with this result, has counted what it did. -/
structure Counted (x : Writer) (w : World) (a : Op × Except WriteError Answer) (x' : Writer) (w' : World) : Prop where
  tallied : Tallied x w → Tallied x' w'
  written : x'.counts.samplesWritten = x.counts.samplesWritten + (wasWritten a).toNat
  turnedDown : x'.counts.samplesRejected = x.counts.samplesRejected + (wasTurnedDown a).toNat
  putOff : x'.counts.transientErrors = x.counts.transientErrors + (wasPutOff a).toNat

theorem addTransient_eq (c : Counts) (passing : Bool) :
    c.addTransient passing = { c with transientErrors := c.transientErrors + passing.toNat } := by
  cases passing <;> rfl

variable {x x' : Writer} {w w' : World}

theorem Tallied.note (h : Tallied x w) (notes : w.Leads [] w') : Tallied x w' := by
  have same : w'.acceptedLines = w.acceptedLines := notes.acceptedLines.trans (List.append_nil _)
  obtain ⟨lines, properties, suppressed⟩ := h
  rw [← same] at lines properties
  exact ⟨lines, properties, suppressed⟩

/-- A sample whose report has counted the lines accepted and the values suppressed. -/
theorem Tallied.addReport {capacity : Nat} {k : Work} (h : Tallied x w)
    (balanced : Work.Balanced capacity { writer := x } w k w') : Tallied (k.writer.addReport k.report) w' := by
  obtain ⟨⟨told, grows, reported⟩, suppressed⟩ := balanced
  obtain ⟨lines, rendered, accepted⟩ := grows.accepted
  have counts : k.writer.counts = x.counts := grows.counts
  have length : told.length = lines.length := by simpa using congrArg List.length rendered
  have reported : k.report.lines = told.length := reported.trans (Nat.zero_add _)
  have suppressed : k.report.suppressed + x.filter.suppressed = k.writer.filter.suppressed :=
    suppressed.trans (Nat.zero_add _)
  constructor
  · show k.writer.counts.linesSent + k.report.lines = _
    rw [counts, h.lines, accepted, List.length_append, reported, length]
  · show k.writer.counts.propertiesSent = _
    rw [counts, h.properties, accepted, List.countP_append, Command.countP_isPropertyLine rendered grows.values]
    rfl
  · show k.writer.counts.valuesSuppressed + k.report.suppressed = k.writer.filter.suppressed
    rw [counts, h.suppressed, ← suppressed, Nat.add_comm]

theorem isInvalid_of_prepare {s : Sample} {e : WriteError} (h : x.prepare s w = .error e) : e.isInvalid = true := by
  rcases error_of_prepare h with ⟨fault, rfl⟩ | ⟨fault, rfl⟩
  · rfl
  · rfl

theorem counted_turnedDown {s : Sample} {e : WriteError} (unprepared : x.prepare s w = .error e) :
    Counted x w (.write s, .error e) (x.turnedDown s e w).state (x.turnedDown s e w).world := by
  have invalid : wasTurnedDown (.write s, .error e) = true := isInvalid_of_prepare unprepared
  have lasting : wasPutOff (.write s, .error e) = false := isTransient_of_prepare unprepared
  refine ⟨fun h => ?_, rfl, ?_, ?_⟩
  · exact Tallied.note ⟨h.lines, h.properties, h.suppressed⟩ (World.leads_log _ _ _ _)
  · rw [invalid]
    rfl
  · rw [lasting]
    rfl

/-- A sample that no value stopped. -/
theorem counted_done {capacity : Nat} {s : Sample} {r : Attempt WriteError Work Unit} (result : r.result = .ok ())
    (balanced : Work.Balanced capacity { writer := x } w r.state r.world) :
    let r := concluded s r
    Counted x w (.write s, r.result.map .report) r.state r.world := by
  obtain ⟨told, grows, -⟩ := balanced.lines
  have written := congrArg Counts.samplesWritten grows.counts
  have turnedDown := congrArg Counts.samplesRejected grows.counts
  have putOff := congrArg Counts.transientErrors grows.counts
  unfold concluded
  rw [result]
  refine ⟨fun h => ?_, congrArg (· + 1) written, turnedDown, putOff⟩
  have h := h.addReport balanced
  exact ⟨h.lines, h.properties, h.suppressed⟩

/-- A sample that an error of delivery ended, with these counts. -/
theorem counted_failed {s : Sample} {r : Attempt WriteError Work Unit} {e : DeliveryError}
    (result : r.result = .error (.delivery e)) (counts : r.state.writer.counts = x.counts)
    (tallied : Tallied x w → Tallied (r.state.writer.addReport r.state.report) r.world) :
    let r := concluded s r
    Counted x w (.write s, r.result.map .report) r.state r.world := by
  have written := congrArg Counts.samplesWritten counts
  have turnedDown := congrArg Counts.samplesRejected counts
  have putOff := congrArg Counts.transientErrors counts
  unfold concluded
  rw [result]
  dsimp only
  unfold countError
  rw [addTransient_eq]
  refine ⟨fun h => ?_, written, turnedDown, congrArg (· + (WriteError.delivery e).isTransient.toNat) putOff⟩
  have h := (tallied h).note (leads_logFailure (r.state.writer.addReport r.state.report) s (.delivery e) r.world)
  exact ⟨h.lines, h.properties, h.suppressed⟩

theorem counted_write (sound : x.channel.Sound) (s : Sample) (w : World) :
    Counted x w (.write s, (x.write s w).result.map .report) (x.write s w).state (x.write s w).world := by
  have writes := write_cases sound s w
  generalize x.write s w = r at writes
  cases writes with
  | invalid e unprepared => exact counted_turnedDown unprepared
  | closed entity prepared isClosed =>
    -- the report is empty
    exact counted_failed rfl rfl fun h => ⟨h.lines, h.properties, h.suppressed⟩
  | fares entity r prepared fares =>
    cases fares with
    | done result bears balanced => exact counted_done result balanced
    | stopped e result passing balanced =>
      obtain ⟨told, grows, -⟩ := balanced.lines
      exact counted_failed result grows.counts fun h => h.addReport balanced

/-! ### Properties -/

theorem counted_sendProperty (sound : x.channel.Sound) {c : Command} {line : String} (rendered : c.line = .ok line)
    (isProperty : c.isProperty = true) (p : Property) (entity : String) (w : World) :
    let r := x.sendProperty entity line w
    Counted x w (.property p, r.result.map fun _ => .finished) r.state r.world := by
  have hands := sendLine_cases sound rendered w
  unfold sendProperty
  generalize x.sendLine line w = r at hands
  cases hands with
  | taken line channel w' rendered sound accepted =>
    have counts : Command.isPropertyLine line = true := (Command.isPropertyLine_of_line rendered).trans isProperty
    refine ⟨fun h => ?_, rfl, rfl, rfl⟩
    refine Tallied.note (w := w') ⟨?_, ?_, h.suppressed⟩ (World.leads_log _ _ _ _)
    · rw [accepted, List.length_append, ← h.lines]
      rfl
    · rw [accepted, List.countP_append, ← h.properties, List.countP_singleton, if_pos counts]
      rfl
  | refused e channel w' sound accepted =>
    dsimp only [Attempt.fail]
    unfold countError
    rw [addTransient_eq]
    refine ⟨fun h => ?_, rfl, rfl, rfl⟩
    refine Tallied.note (w := w') ⟨?_, ?_, h.suppressed⟩ (World.leads_log _ _ _ _)
    · rw [accepted]
      exact h.lines
    · rw [accepted]
      exact h.properties

theorem counted_writeProperty (sound : x.channel.Sound) (p : Property) (w : World) :
    let r := x.writeProperty p w
    Counted x w (.property p, r.result.map fun _ => .finished) r.state r.world := by
  unfold writeProperty
  split
  · exact ⟨id, rfl, rfl, rfl⟩
  · rename_i entity _
    split
    · exact ⟨id, rfl, rfl, rfl⟩
    · rename_i line rendered
      exact counted_sendProperty sound rendered rfl p entity w

theorem counted_writePropertyIfDue (sound : x.channel.Sound) (p : Property) (w : World) :
    let r := x.writePropertyIfDue p w
    Counted x w (.propertyIfDue p, r.result.map .sent) r.state r.world := by
  cases due : x.propertyDue w.now with
  | false =>
    rw [writePropertyIfDue_of_early due]
    exact ⟨id, rfl, rfl, rfl⟩
  | true =>
    rw [writePropertyIfDue_of_due due]
    obtain ⟨tallied, written, turnedDown, putOff⟩ := counted_writeProperty sound p w
    cases result : (x.writeProperty p w).result with
    | ok _ =>
      rw [result] at written turnedDown putOff
      exact ⟨tallied, written, turnedDown, putOff⟩
    | error e =>
      rw [result] at written turnedDown putOff
      exact ⟨tallied, written, turnedDown, putOff⟩

/-! ### Flushing and the end -/

theorem counted_flush (sound : x.channel.Sound) (timeout : Nat) (w : World) :
    let r := x.flush timeout w
    Counted x w (.flush timeout, r.result.map fun _ => .finished) r.state r.world := by
  have flushes := Channel.flush_cases sound.linked timeout w
  have accepted := flushes.acceptedLines
  unfold flush
  generalize x.channel.flush timeout w = r at flushes accepted
  have tallied (h : Tallied x w) : Tallied { x with channel := r.state } r.world := by
    refine ⟨?_, ?_, h.suppressed⟩
    · rw [accepted]
      exact h.lines
    · rw [accepted]
      exact h.properties
  cases flushes with
  | waiting => exact ⟨tallied, rfl, rfl, rfl⟩
  | nothing => exact ⟨tallied, rfl, rfl, rfl⟩
  | written => exact ⟨tallied, rfl, rfl, rfl⟩
  | lost reason w' =>
    dsimp only [Attempt.fail]
    rw [addTransient_eq]
    refine ⟨fun h => ?_, rfl, rfl, rfl⟩
    obtain ⟨lines, properties, suppressed⟩ := tallied h
    exact Tallied.note ⟨lines, properties, suppressed⟩ (World.leads_log _ _ _ _)

theorem counted_shutdown (sound : x.channel.Sound) (w : World) :
    let r := x.shutdown w
    Counted x w (.shutdown, r.result.map fun _ => .finished) r.state r.world := by
  have accepted := (Channel.shutdown_cases sound w).acceptedLines
  unfold shutdown
  split
  · exact ⟨id, rfl, rfl, rfl⟩
  · refine ⟨fun h => ?_, ?_, ?_, ?_⟩
    · refine Tallied.note (w := (x.channel.shutdown w).world) ⟨?_, ?_, h.suppressed⟩ (World.leads_log _ _ _ _)
      · rw [accepted]
        exact h.lines
      · rw [accepted]
        exact h.properties
    all_goals cases (x.channel.shutdown w).result <;> rfl

theorem counted_act (sound : x.channel.Sound) (op : Op) (w : World) :
    Counted x w (op, (act op x w).result) (act op x w).state (act op x w).world := by
  cases op with
  | write s =>
    rw [act_write_eq]
    exact counted_write sound s w
  | flush timeout =>
    rw [act_flush_eq]
    exact counted_flush sound timeout w
  | property p =>
    rw [act_property_eq]
    exact counted_writeProperty sound p w
  | propertyIfDue p =>
    rw [act_propertyIfDue_eq]
    exact counted_writePropertyIfDue sound p w
  | shutdown =>
    rw [act_shutdown_eq]
    exact counted_shutdown sound w

/-! ### Runs -/

/-- All counts of a writer are right after a run. -/
structure Audited (k : Course WriteError Writer Op Answer) : Prop where
  sound : k.state.channel.Sound
  tallied : Tallied k.state k.world
  written : k.state.counts.samplesWritten = k.results.countP wasWritten
  turnedDown : k.state.counts.samplesRejected = k.results.countP wasTurnedDown
  putOff : k.state.counts.transientErrors = k.results.countP wasPutOff
  bytes : k.state.bytesSent = k.world.deliveredBytes

theorem Audited.next {k : Course WriteError Writer Op Answer} (h : Audited k) (c : Call Op) :
    Audited (k.next act c) := by
  have counted := counted_act h.sound c.op (k.world.atCall c)
  have one (p : Op × Except WriteError Answer → Bool) :
      (k.next act c).results.countP p =
        k.results.countP p + (p (c.op, (act c.op k.state (k.world.atCall c)).result)).toNat := by
    show (k.results ++ [_]).countP p = _
    rw [List.countP_append, List.countP_singleton]
    cases p (c.op, (act c.op k.state (k.world.atCall c)).result) <;> rfl
  constructor
  · exact Channel.upheld_sound.writer_act (w := k.world.atCall c) h.sound h.sound c.op
  · exact counted.tallied ⟨h.tallied.lines, h.tallied.properties, h.tallied.suppressed⟩
  · rw [one, ← h.written]
    exact counted.written
  · rw [one, ← h.turnedDown]
    exact counted.turnedDown
  · rw [one, ← h.putOff]
    exact counted.putOff
  · exact Channel.upheld_bytes.writer_act (w := k.world.atCall c) h.sound h.bytes c.op

theorem audited_course (s : Settings) (network : Network) (now wall : Int) (machine : HostAnswer)
    (calls : List (Call Op)) : Audited (course s network now wall machine calls) := by
  refine Course.run_induction Audited ?_ (fun k c h => h.next c) calls
  exact ⟨Channel.sound_new _ _ _ _ _, ⟨rfl, rfl, rfl⟩, rfl, rfl, rfl, rfl⟩

/-! ### One more sample -/

/-- A sample is turned down with this error.  That is counted, and nothing else changes. -/
structure TurnsDown (x : Writer) (w : World) (e : WriteError) (r : Attempt WriteError Writer Answer) : Prop where
  result : r.result = .error e
  state : r.state = { x with counts := { x.counts with samplesRejected := x.counts.samplesRejected + 1 } }
  traffic : r.world.traffic = w.traffic

/-- The report of a sample whose values have these fates, and which ends in the world `w'`: it counts the values, and
its lines are those accepted, which are the lines of the commands told. -/
structure Accounts (fates : List Fate) (w : World) (report : Report) (w' : World) : Prop where
  skipped : report.skipped = fates.count .skipped
  suppressed : report.suppressed = fates.count .suppressed
  rejected : report.rejected = fates.countP Fate.isRejected
  lines : ∃ lines, (fates.flatMap Fate.told).map Command.line = lines.map Except.ok ∧
    w'.acceptedLines = w.acceptedLines ++ lines ∧ report.lines = lines.length

theorem accounts_of_bears {capacity : Nat} {k : Work} {fates : List Fate} {m : Memory}
    (bears : Work.Bears capacity { writer := x } w fates m k w') : Accounts fates w k.report w' := by
  obtain ⟨lines, rendered, accepted⟩ := bears.grows.accepted
  have length : (fates.flatMap Fate.told).length = lines.length := by simpa using congrArg List.length rendered
  have report : k.report = ({} : Report).after fates := bears.report
  rw [report]
  refine ⟨Nat.zero_add _, Nat.zero_add _, Nat.zero_add _, lines, rendered, accepted, ?_⟩
  rw [← length]
  exact Nat.zero_add _

theorem turnsDown_write {s : Sample} {e : WriteError} (unprepared : x.prepare s w = .error e) :
    TurnsDown x w e (act (.write s) x w) := by
  rw [act_write_eq, write_of_unprepared unprepared]
  exact ⟨rfl, rfl, (World.leads_log _ _ _ _).traffic⟩

theorem act_write_cases (sound : x.channel.Sound) (s : Sample) (w : World) :
    let r := act (.write s) x w
    (∃ e, x.prepare s w = .error e ∧ TurnsDown x w e r ∧ e.isInvalid = true) ∨
      ∃ entity, x.prepare s w = .ok entity ∧ wasTurnedDown (.write s, r.result) = false ∧
        ∀ report, r.result = .ok (.report report) → Accounts (x.fates s entity).1 w report r.world := by
  intro r
  have same : r = _ := act_write_eq x s w
  have writes := write_cases sound s w
  generalize x.write s w = written at writes same
  cases writes with
  | invalid e unprepared => exact .inl ⟨e, unprepared, turnsDown_write unprepared, isInvalid_of_prepare unprepared⟩
  | closed entity prepared isClosed =>
    refine .inr ⟨entity, prepared, ?_, fun report reported => ?_⟩
    · rw [same]
      rfl
    · rw [same] at reported
      cases reported
  | fares entity a prepared fares =>
    refine .inr ⟨entity, prepared, ?_⟩
    rw [same]
    unfold concluded
    cases fares with
    | stopped e result =>
      rw [result]
      exact ⟨rfl, fun report reported => by cases reported⟩
    | done result bears =>
      rw [result]
      refine ⟨rfl, fun report reported => ?_⟩
      cases reported
      exact accounts_of_bears bears

/-- After any run, whatever failed in it, the writer has counted the lines accepted, the properties among them, the
values its filter has suppressed, the samples turned down and written, the errors returned that may pass, and the bytes
delivered.  The next sample is turned down exactly if it is invalid or its entity is not found, and if its report is
returned, each of its values has a fate, and the report accounts for them. -/
theorem counts_of_course (s : Settings) (network : Network) (now wall : Int) (machine : HostAnswer)
    (calls : List (Call Op)) :
    let k := course s network now wall machine calls
    let counts := k.state.counts
    (counts.linesSent = k.world.acceptedLines.length ∧
      counts.propertiesSent = k.world.acceptedLines.countP Command.isPropertyLine ∧
      counts.valuesSuppressed = k.state.filter.suppressed ∧
      counts.samplesRejected = k.results.countP wasTurnedDown ∧
      counts.samplesWritten = k.results.countP wasWritten ∧
      counts.transientErrors = k.results.countP wasPutOff ∧
      k.state.bytesSent = k.world.deliveredBytes) ∧
    ∀ (smp : Sample) (c : Call Unit),
      let w := k.world.atCall c
      let r := act (.write smp) k.state w
      (wasTurnedDown (.write smp, r.result) = true ↔ ∃ e, k.state.prepare smp w = .error e) ∧
      (∀ e, k.state.prepare smp w = .error e → TurnsDown k.state w e r) ∧
      ∀ report, r.result = .ok (.report report) → ∃ entity, k.state.prepare smp w = .ok entity ∧
        let fates := (k.state.fates smp entity).1
        fates.length = smp.values.length ∧ Accounts fates w report r.world := by
  intro k counts
  have audited : Audited k := audited_course s network now wall machine calls
  refine ⟨⟨audited.tallied.lines, audited.tallied.properties, audited.tallied.suppressed, audited.turnedDown,
    audited.written, audited.putOff, audited.bytes⟩, fun smp c => ?_⟩
  intro w r
  refine ⟨?_, fun e unprepared => turnsDown_write unprepared, fun report reported => ?_⟩
  · rcases act_write_cases audited.sound smp w with ⟨e, unprepared, turnsDown, invalid⟩ | ⟨entity, prepared, no, -⟩
    · have yes : wasTurnedDown (.write smp, r.result) = true := by
        rw [turnsDown.result]
        exact invalid
      exact ⟨fun _ => ⟨e, unprepared⟩, fun _ => yes⟩
    · rw [no, prepared]
      simp
  · rcases act_write_cases audited.sound smp w with ⟨e, -, turnsDown, -⟩ | ⟨entity, prepared, -, accounts⟩
    · rw [turnsDown.result] at reported
      cases reported
    · exact ⟨entity, prepared, Memory.length_fates .., accounts report reported⟩

/-- A counter without a rate is sent, and a sample with too many rates is turned down. -/
theorem counts_of_course_counter :
    let settings : Settings := { node := { metricDefinitions := false } }
    let smp : Sample := { host := "h", plugin := "p", typeName := "t", time := 7, values := [⟨"value", .counter 5⟩] }
    let k := course settings .ideal 0 0 (.name []) [⟨.write { smp with rates := some [] }, 2, 2, .name []⟩]
    let w := k.world.atCall ⟨(), 5, 5, .name []⟩
    let r := act (.write smp) k.state w
    k.state.counts.samplesRejected = 1 ∧ r.result = .ok (.report { lines := 1 }) ∧
      ∃ entity, k.state.prepare smp w = .ok entity ∧
        let fates := (k.state.fates smp entity).1
        fates.length = smp.values.length ∧ Accounts fates w { lines := 1 } r.world := by
  intro settings smp k w r
  have result : r.result = .ok (.report { lines := 1 }) := by decide
  exact ⟨by decide, result, ((counts_of_course settings .ideal 0 0 (.name [])
    [⟨.write { smp with rates := some [] }, 2, 2, .name []⟩]).2 smp ⟨(), 5, 5, .name []⟩).2.2 _ result⟩

end Writer

end MetricFeed
