import MetricFeed.Proofs.ChannelMoves
import MetricFeed.Proofs.Decoding
import MetricFeed.Proofs.ValueTexts
import MetricFeed.Proofs.WriterMoves
import Mathlib.Data.List.Nodup

/-!
# The journal of a writer

The lines that a channel accepted are the lines of commands which the writer drafted, one for each, in order.  With
metric definitions on, no metric is defined twice, a value comes after the definition of its metric, and the writer
takes for described exactly the metrics whose definitions were accepted (`Journal`).  Every function of a writer keeps
the journal, whatever fails on the way, so it holds after every run (`Writer.keeps_course`).
-/

namespace MetricFeed

/-! ### What a writer drafts -/

namespace Command

/-- The commands a writer makes: the definition and the value of a series that is derived from a value of a sample, and
a property of an entity. -/
inductive Drafted : Command → Prop where
  | definition {o : Observation} {v : Value} {rate : Option Float} {all : List Series} {s : Series}
    (text : o.text = v.text rate) (derived : o.derive = .ok all) (mem : s ∈ all) : Drafted s.definition
  | value {o : Observation} {v : Value} {rate : Option Float} {all : List Series} {s : Series}
    (text : o.text = v.text rate) (derived : o.derive = .ok all) (mem : s ∈ all) : Drafted s.command
  | property (p : Property) (entity : String) : Drafted (p.command entity)

/-- If it carries a value, that is the text of a value. -/
def Measures : Command → Prop
  | series _ _ value _ _ => IsValueText value
  | _ => True

/-- Nothing in the value of a series would break a token. -/
def Legible : Command → Prop
  | series _ _ value _ _ => Unbroken value.toList
  | _ => True

theorem Measures.legible {c : Command} (h : c.Measures) : c.Legible := by
  cases c with
  | series entity name value tags time => exact IsValueText.unbroken h
  | metric name tags => trivial
  | property entity time type values => trivial

theorem Legible.plain {c : Command} (h : c.Legible) : c.Plain := by
  cases c with
  | series entity name value tags time => exact fun space => absurd (h ' ' space) (by decide)
  | metric name tags => trivial
  | property entity time type values => trivial

/-- The metric that a command defines. -/
def defined? : Command → Option String
  | metric name _ => some name
  | _ => none

/-- The metric that a command carries a value of. -/
def measured? : Command → Option String
  | series _ name _ _ _ => some name
  | _ => none

theorem mapM_line_of_map {commands : List Command} {lines : List String}
    (h : commands.map line = lines.map Except.ok) : commands.mapM line = .ok lines := by
  induction commands generalizing lines with
  | nil =>
    rw [List.map_nil, eq_comm, List.map_eq_nil_iff] at h
    rw [h]
    rfl
  | cons c commands ih =>
    obtain ⟨text, texts, rfl, first, others⟩ := List.map_eq_cons_iff.1 h.symm
    rw [List.mapM_cons, ← first, ih others.symm]
    rfl

/-- Lines put one after the other are read back as the commands they are the lines of. -/
theorem readAll?_of_map {commands : List Command} {lines : List String} (h : commands.map line = lines.map Except.ok)
    (plain : ∀ c ∈ commands, c.Plain) : readAll? (String.join lines) = some commands :=
  readAll?_of_mapM (mapM_line_of_map h) plain

end Command

/-! ### Derived series -/

namespace Observation

open Command (of_bind_eq_ok)

variable {o : Observation}

theorem value_of_series {pattern : Pattern} {instanceTag : Bool} {transform : String → String} {s : Series}
    (h : o.series pattern instanceTag transform = .ok s) : s.value = transform o.text := by
  obtain ⟨ds, -, h⟩ := of_bind_eq_ok h
  obtain ⟨metric, -, h⟩ := of_bind_eq_ok h
  cases h
  rfl

theorem of_append {before all : List Series} {s : Series} (h : Series.append before s = .ok all) :
    all = before ++ [s] := by
  unfold Series.append at h
  split at h
  · cases h
  · cases h
    rfl

/-- The text of a series is that of the value, or the rest to a hundred. -/
def Echoes (o : Observation) (all : List Series) : Prop :=
  ∀ s ∈ all, s.value = o.text ∨ s.value = inverted o.text

theorem Echoes.append {before all : List Series} {s : Series} (hb : o.Echoes before)
    (hs : s.value = o.text ∨ s.value = inverted o.text) (h : Series.append before s = .ok all) : o.Echoes all := by
  rw [of_append h]
  intro x hx
  rcases List.mem_append.1 hx with hx | hx
  · exact hb x hx
  · rw [List.mem_singleton.1 hx]
    exact hs

theorem echoes_nil : o.Echoes [] := fun s hs => by cases hs

theorem echoes_expandDefault {before all : List Series} (hb : o.Echoes before)
    (h : Rule.expandDefault o before = .ok all) : o.Echoes all := by
  obtain ⟨s, hs, h⟩ := of_bind_eq_ok h
  exact hb.append (.inl (value_of_series hs)) h

theorem echoes_expandIdle {all : List Series} (h : Rule.expandIdle o = .ok all) : o.Echoes all := by
  obtain ⟨busy, hs, h⟩ := of_bind_eq_ok h
  obtain ⟨before, hb, h⟩ := of_bind_eq_ok h
  exact echoes_expandDefault (echoes_nil.append (.inr (value_of_series hs)) hb) h

theorem value_withMount (smp : Sample) (s : Series) : (Rule.withMount smp s).value = s.value := by
  unfold Rule.withMount
  split <;> rfl

theorem echoes_expandDisk {all : List Series} (h : Rule.expandDisk o = .ok all) : o.Echoes all := by
  unfold Rule.expandDisk at h
  split at h
  · obtain ⟨used, hs, h⟩ := of_bind_eq_ok h
    obtain ⟨before, hb, h⟩ := of_bind_eq_ok h
    have value := (value_withMount o.sample used).trans (value_of_series hs)
    exact echoes_expandDefault (echoes_nil.append (.inr value) hb) h
  · obtain ⟨s, hs, h⟩ := of_bind_eq_ok h
    exact echoes_nil.append (.inl ((value_withMount o.sample s).trans (value_of_series hs))) h

theorem echoes_expandExec {all : List Series} (h : Rule.expandExec o = .ok all) : o.Echoes all := by
  obtain ⟨s, hs, h⟩ := of_bind_eq_ok h
  -- the tags are exchanged, the value stays
  refine echoes_nil.append (.inl ?_) h
  exact value_of_series hs

theorem echoes_derive {all : List Series} (h : o.derive = .ok all) : o.Echoes all := by
  unfold derive at h
  split at h
  · rename_i rule found
    have mem := List.mem_of_find?_eq_some found
    simp only [Rule.table, List.mem_cons, List.not_mem_nil, or_false] at mem
    rcases mem with rfl | rfl | rfl | rfl
    · exact echoes_expandIdle h
    · exact echoes_expandDisk h
    · exact echoes_expandExec h
    · exact echoes_expandDefault echoes_nil h
  · cases h
    exact echoes_nil

end Observation

theorem Command.Drafted.measures {c : Command} (h : c.Drafted) : c.Measures := by
  cases h with
  | definition => trivial
  | property => trivial
  | @value o v rate all s text derived mem =>
    show IsValueText s.value
    rcases Observation.echoes_derive derived s mem with eq | eq
    · rw [eq, text]
      exact .ofValue v rate
    · rw [eq]
      exact .inverted o.text

theorem Command.Drafted.legible {c : Command} (h : c.Drafted) : c.Legible :=
  h.measures.legible

/-! ### The journal -/

/-- The commands accepted so far, in order, and the metrics taken for described, with metric definitions on or off. -/
structure Journal (on : Bool) (described : Std.HashSet String) (commands : List Command) : Prop where
  drafted : ∀ c ∈ commands, c.Drafted
  once : (commands.filterMap Command.defined?).Nodup
  described_iff : ∀ m, m ∈ described ↔ m ∈ commands.filterMap Command.defined?
  silent : on = false → commands.filterMap Command.defined? = []
  first : on = true → ∀ before c after m, commands = before ++ c :: after → c.measured? = some m →
    m ∈ before.filterMap Command.defined?

namespace Journal

variable {on : Bool} {described : Std.HashSet String} {commands : List Command}

theorem empty (on : Bool) : Journal on {} [] where
  drafted c hc := by cases hc
  once := List.nodup_nil
  described_iff m := by simp
  silent _ := rfl
  first _ before c after m h := by simp at h

theorem drafted_concat (h : Journal on described commands) {d : Command} (hd : d.Drafted) :
    ∀ c ∈ commands ++ [d], c.Drafted := by
  intro c hc
  rcases List.mem_append.1 hc with hc | hc
  · exact h.drafted c hc
  · rw [List.mem_singleton.1 hc]
    exact hd

/-- A command that defines no metric, and whose metric is described if it carries a value. -/
theorem add (h : Journal on described commands) {d : Command} (hd : d.Drafted) (free : d.defined? = none)
    (known : on = true → ∀ m, d.measured? = some m → m ∈ described) : Journal on described (commands ++ [d]) := by
  have defined : (commands ++ [d]).filterMap Command.defined? = commands.filterMap Command.defined? := by
    rw [List.filterMap_append, List.filterMap_cons_none free, List.filterMap_nil, List.append_nil]
  refine ⟨h.drafted_concat hd, ?_, ?_, ?_, ?_⟩
  · rw [defined]
    exact h.once
  · rw [defined]
    exact h.described_iff
  · rw [defined]
    exact h.silent
  · intro isOn before c after m split measured
    rcases Course.entry_of_concat split with ⟨rfl, rfl, -⟩ | ⟨rest, -, split⟩
    · exact (h.described_iff m).1 (known isOn m measured)
    · exact h.first isOn before c rest m split measured

/-- The definition of a metric that was not described before. -/
theorem define (h : Journal true described commands) {s : Series} (hs : s.definition.Drafted)
    (fresh : s.metric ∉ described) :
    Journal true (described.insert s.metric) (commands ++ [s.definition]) := by
  have defined : (commands ++ [s.definition]).filterMap Command.defined? =
      commands.filterMap Command.defined? ++ [s.metric] := List.filterMap_append
  refine ⟨h.drafted_concat hs, ?_, ?_, ?_, ?_⟩
  · rw [defined, List.nodup_append]
    refine ⟨h.once, List.nodup_singleton _, fun m hm m' hm' e => fresh ?_⟩
    rw [h.described_iff, ← List.mem_singleton.1 hm', ← e]
    exact hm
  · intro m
    rw [defined, Std.HashSet.mem_insert, h.described_iff, List.mem_append, List.mem_singleton, beq_iff_eq, or_comm,
      eq_comm]
  · intro off
    cases off
  · intro isOn before c after m split measured
    rcases Course.entry_of_concat split with ⟨-, rfl, -⟩ | ⟨rest, -, split⟩
    · cases measured
    · exact h.first isOn before c rest m split measured

end Journal

namespace Writer

/-- The journal of a writer: the lines accepted are those of its commands. -/
structure Keeps (on : Bool) (x : Writer) (w : World) : Prop where
  sound : x.channel.Sound
  setting : x.node.metricDefinitions = on
  journal : ∃ commands, Journal on x.described commands ∧
    commands.map Command.line = w.acceptedLines.map Except.ok

variable {on : Bool} {x x' : Writer} {w w' : World}

/-- Another state of the writer that has accepted the same lines and described the same metrics. -/
theorem Keeps.recast (h : Keeps on x w) (channel : x'.channel = x.channel) (node : x'.node = x.node)
    (described : x'.described = x.described) (notes : w.Leads [] w') : Keeps on x' w' := by
  obtain ⟨sound, setting, commands, journal, lines⟩ := h
  have accepted : w'.acceptedLines = w.acceptedLines := notes.acceptedLines.trans (List.append_nil _)
  exact ⟨channel ▸ sound, node ▸ setting, commands, described ▸ journal, accepted ▸ lines⟩

/-- What handing a command to the channel can come to. -/
inductive Hands (x : Writer) (c : Command) (w : World) : Attempt WriteError Writer Unit → Prop where
  | taken (line : String) (channel : Channel) (w' : World) (rendered : c.line = .ok line) (sound : channel.Sound)
    (accepted : w'.acceptedLines = w.acceptedLines ++ [line]) : Hands x c w (.done () { x with channel } w')
  | refused (e : WriteError) (channel : Channel) (w' : World) (sound : channel.Sound)
    (accepted : w'.acceptedLines = w.acceptedLines) : Hands x c w (.fail e { x with channel } w')

theorem sendLine_cases (hx : x.channel.Sound) {c : Command} {line : String} (rendered : c.line = .ok line)
    (w : World) : Hands x c w (x.sendLine line w) := by
  have sends := Channel.send_cases hx line w
  have sound := sends.sound hx
  have accepted := sends.acceptedLines
  unfold sendLine Attempt.within Attempt.mapError
  dsimp only
  cases result : (x.channel.send line w).result with
  | ok _ =>
    rw [result] at accepted
    exact .taken line _ _ rendered sound accepted
  | error e =>
    rw [result] at accepted
    exact .refused _ _ _ sound (accepted.trans (List.append_nil _))

theorem sendCommand_cases (hx : x.channel.Sound) (c : Command) (w : World) : Hands x c w (x.sendCommand c w) := by
  unfold sendCommand
  cases rendered : c.line with
  | error e => exact .refused _ x.channel w hx rfl
  | ok line => exact sendLine_cases hx rendered w

theorem lines_concat {commands : List Command} {lines lines' : List String} {c : Command} {line : String}
    (h : commands.map Command.line = lines.map Except.ok) (rendered : c.line = .ok line)
    (accepted : lines' = lines ++ [line]) : (commands ++ [c]).map Command.line = lines'.map Except.ok := by
  rw [accepted, List.map_append, List.map_append, h, List.map_singleton, List.map_singleton, rendered]

/-- A command that defines no metric, and whose metric is described if it carries a value. -/
theorem Keeps.hand (h : Keeps on x w) {c : Command} (hc : c.Drafted) (free : c.defined? = none)
    (known : on = true → ∀ m, c.measured? = some m → m ∈ x.described)
    {r : Attempt WriteError Writer Unit} (hr : Hands x c w r) : Keeps on r.state r.world := by
  obtain ⟨-, setting, commands, journal, lines⟩ := h
  cases hr with
  | taken line channel w' rendered sound accepted =>
    exact ⟨sound, setting, commands ++ [c], journal.add hc free known, lines_concat lines rendered accepted⟩
  | refused e channel w' sound accepted =>
    exact ⟨sound, setting, commands, journal, accepted ▸ lines⟩

end Writer

namespace Work

variable {on : Bool} {k : Work} {w : World}

/-- The writer keeps its journal in the course of a sample. -/
def Keeps (on : Bool) (k : Work) (w : World) : Prop := k.writer.Keeps on w

theorem keeps_send (h : Keeps on k w) {c : Command} (hc : c.Drafted) (free : c.defined? = none)
    (known : on = true → ∀ m, c.measured? = some m → m ∈ k.writer.described) :
    Keeps on (k.send c w).state (k.send c w).world := by
  unfold send
  refine Attempt.andThen_induction (Keeps on) ?_ fun _ _ _ h => h
  exact h.hand hc free known (Writer.sendCommand_cases h.sound c w)

/-- A metric that is described already, or need not be. -/
theorem describe_of_known {s : Series} (known : k.writer.node.metricDefinitions = true → s.metric ∈ k.writer.described)
    (w : World) : k.describe s w = .done () k w := by
  unfold describe
  cases on : k.writer.node.metricDefinitions with
  | false => rfl
  | true =>
    rw [Std.HashSet.mem_iff_contains.1 (known on)]
    rfl

theorem describe_of_new {s : Series} (on : k.writer.node.metricDefinitions = true) (new : s.metric ∉ k.writer.described)
    (w : World) :
    k.describe s w = (k.send s.definition w).andThen fun _ k w => .done () (k.markDescribed s.metric) w := by
  have contains : k.writer.described.contains s.metric = false :=
    Bool.eq_false_iff.2 fun known => new (Std.HashSet.mem_iff_contains.2 known)
  unfold describe
  rw [on, contains]
  rfl

theorem sendSeries_of_known {s : Series}
    (known : k.writer.node.metricDefinitions = true → s.metric ∈ k.writer.described) (w : World) :
    k.sendSeries s w = k.send s.command w := by
  unfold sendSeries
  rw [describe_of_known known]
  rfl

theorem sendSeries_of_new {s : Series} (on : k.writer.node.metricDefinitions = true)
    (new : s.metric ∉ k.writer.described) (w : World) :
    k.sendSeries s w =
      ((k.send s.definition w).andThen fun _ k w => .done () (k.markDescribed s.metric) w).andThen fun _ k w =>
      k.send s.command w := by
  unfold sendSeries
  rw [describe_of_new on new]

/-- The journal is kept when a metric is described, and if there was no error, it is described or need not be. -/
theorem keeps_describe (h : Keeps on k w) {s : Series} (hs : s.definition.Drafted) :
    let r := k.describe s w
    Keeps on r.state r.world ∧ (r.result = .ok () → on = true → s.metric ∈ r.state.writer.described) := by
  intro r
  by_cases known : on = true → s.metric ∈ k.writer.described
  · have eq : r = .done () k w := describe_of_known (h.setting ▸ known) w
    rw [eq]
    exact ⟨h, fun _ => known⟩
  · obtain ⟨rfl, new⟩ := Classical.not_imp.1 known
    have eq : r = _ := describe_of_new h.setting new w
    have hands := Writer.sendCommand_cases h.sound s.definition w
    unfold send at eq
    generalize k.writer.sendCommand s.definition w = sent at hands eq
    obtain ⟨-, setting, commands, journal, lines⟩ := h
    rw [eq]
    cases hands with
    | taken line channel w' rendered sound accepted =>
      have mem : s.metric ∈ k.writer.described.insert s.metric := Std.HashSet.mem_insert_self
      exact ⟨⟨sound, setting, _, journal.define hs new, Writer.lines_concat lines rendered accepted⟩, fun _ _ => mem⟩
    | refused e channel w' sound accepted =>
      exact ⟨⟨sound, setting, commands, journal, accepted ▸ lines⟩, fun ok => by cases ok⟩

theorem keeps_sendSeries (h : Keeps on k w) {s : Series} (hd : s.definition.Drafted) (hc : s.command.Drafted) :
    Keeps on (k.sendSeries s w).state (k.sendSeries s w).world := by
  obtain ⟨keeps, described⟩ := keeps_describe h hd
  unfold sendSeries Attempt.andThen
  cases result : (k.describe s w).result with
  | error e => exact keeps
  | ok _ =>
    refine keeps_send keeps hc rfl fun isOn m measured => ?_
    cases measured
    exact described result isOn

theorem keeps_sendAll {all : List Series} (drafted : ∀ s ∈ all, s.definition.Drafted ∧ s.command.Drafted)
    (h : Keeps on k w) : Keeps on (k.sendAll all w).state (k.sendAll all w).world := by
  induction all generalizing k w with
  | nil => exact h
  | cons s rest ih =>
    obtain ⟨hd, hc⟩ := drafted s List.mem_cons_self
    refine Attempt.andThen_induction (Keeps on) (keeps_sendSeries h hd hc) fun _ k w h => ?_
    exact ih (fun s hs => drafted s (List.mem_cons_of_mem _ hs)) h

theorem keeps_writeObservation (h : Keeps on k w) {o : Observation} {v : Value} {rate : Option Float}
    (text : o.text = v.text rate) :
    Keeps on (k.writeObservation o w).state (k.writeObservation o w).world := by
  unfold writeObservation
  split
  · rename_i all derived
    exact keeps_sendAll (fun s hs => ⟨.definition text derived hs, .value text derived hs⟩) h
  · exact h

theorem keeps_settle {r : Attempt WriteError Work Unit} (h : Keeps on r.state r.world) (s : Sample)
    (ds : DataSource) : Keeps on (settle s ds r).state (settle s ds r).world := by
  unfold settle
  split
  · exact h
  · split
    · exact h.recast rfl rfl rfl (World.leads_log _ _ _ _)
    · exact h

theorem keeps_writeValue (h : Keeps on k w) (s : Sample) (entity : String) (index : Nat) (ds : DataSource) :
    Keeps on (k.writeValue s entity index ds w).state (k.writeValue s entity index ds w).world := by
  unfold writeValue
  dsimp only
  split
  · exact h
  · split
    · exact h.recast rfl rfl rfl (.refl w)
    · exact h.recast rfl rfl rfl (.refl w)
    · refine keeps_settle (keeps_writeObservation ?_ rfl) s ds
      exact h.recast rfl rfl rfl (.refl w)

theorem keeps_writeValues (s : Sample) (entity : String) (values : List DataSource) (index : Nat)
    (h : Keeps on k w) :
    Keeps on (k.writeValues s entity index values w).state (k.writeValues s entity index values w).world := by
  induction values generalizing k index w with
  | nil => exact h
  | cons ds rest ih =>
    refine Attempt.andThen_induction (Keeps on) (keeps_writeValue h s entity index ds)
      fun _ k w h => ?_
    exact ih (index + 1) h

theorem keeps_writeSample (h : Keeps on k w) (s : Sample) (entity : String) :
    Keeps on (k.writeSample s entity w).state (k.writeSample s entity w).world := by
  unfold writeSample
  split
  · exact h
  · exact keeps_writeValues s entity s.values 0 h

end Work

namespace Writer

variable {on : Bool} {x : Writer} {w : World}

theorem Keeps.write (h : Keeps on x w) (s : Sample) : Keeps on (x.write s w).state (x.write s w).world := by
  unfold Writer.write
  split
  · exact h.recast rfl rfl rfl (World.leads_log _ _ _ _)
  · rename_i entity _
    have keeps := Work.keeps_writeSample (k := { writer := x }) h s entity
    dsimp only
    split
    · exact keeps.recast rfl rfl rfl (.refl _)
    · exact keeps.recast rfl rfl rfl (leads_logFailure _ _ _ _)

theorem Keeps.writeProperty (h : Keeps on x w) (p : Property) :
    Keeps on (x.writeProperty p w).state (x.writeProperty p w).world := by
  unfold Writer.writeProperty
  split
  · exact h
  · rename_i entity _
    split
    · exact h
    · rename_i line rendered
      have keeps := h.hand (.property (p.stamped w.stamp) entity) rfl (fun _ m measured => by cases measured)
        (sendLine_cases h.sound rendered w)
      unfold sendProperty
      dsimp only
      split
      · exact keeps.recast rfl rfl rfl (World.leads_log _ _ _ _)
      · exact keeps.recast rfl rfl rfl (World.leads_log _ _ _ _)

theorem Keeps.writePropertyIfDue (h : Keeps on x w) (p : Property) :
    Keeps on (x.writePropertyIfDue p w).state (x.writePropertyIfDue p w).world := by
  unfold Writer.writePropertyIfDue
  split
  · exact Attempt.andThen_induction (fun x w => Keeps on x w) (h.writeProperty p) fun _ _ _ h => h
  · exact h

theorem Keeps.flush (h : Keeps on x w) (timeout : Nat) :
    Keeps on (x.flush timeout w).state (x.flush timeout w).world := by
  have flushes := Channel.flush_cases h.sound.linked timeout w
  have sound := flushes.sound h.sound
  obtain ⟨-, setting, commands, journal, lines⟩ := h
  rw [← flushes.acceptedLines] at lines
  have keeps : Keeps on { x with channel := (x.channel.flush timeout w).state } (x.channel.flush timeout w).world :=
    ⟨sound, setting, commands, journal, lines⟩
  unfold Writer.flush
  dsimp only
  split
  · exact keeps
  · exact keeps.recast rfl rfl rfl (World.leads_log _ _ _ _)

theorem Keeps.shutdown (h : Keeps on x w) : Keeps on (x.shutdown w).state (x.shutdown w).world := by
  have ends := Channel.shutdown_cases h.sound w
  have sound := ends.sound h.sound
  unfold Writer.shutdown
  split
  · exact h
  · obtain ⟨-, setting, commands, journal, lines⟩ := h
    rw [← ends.acceptedLines] at lines
    have keeps : Keeps on { x with channel := (x.channel.shutdown w).state } (x.channel.shutdown w).world :=
      ⟨sound, setting, commands, journal, lines⟩
    exact keeps.recast rfl rfl rfl (World.leads_log _ _ _ _)

theorem Keeps.act (h : Keeps on x w) (op : Op) : Keeps on (act op x w).state (act op x w).world := by
  unfold Writer.act
  cases op with
  | write s => exact Attempt.andThen_induction (fun x w => Keeps on x w) (h.write s) fun _ _ _ h => h
  | flush timeout => exact Attempt.andThen_induction (fun x w => Keeps on x w) (h.flush timeout) fun _ _ _ h => h
  | property p => exact Attempt.andThen_induction (fun x w => Keeps on x w) (h.writeProperty p) fun _ _ _ h => h
  | propertyIfDue p =>
    exact Attempt.andThen_induction (fun x w => Keeps on x w) (h.writePropertyIfDue p) fun _ _ _ h => h
  | shutdown => exact Attempt.andThen_induction (fun x w => Keeps on x w) h.shutdown fun _ _ _ h => h

theorem keeps_course (s : Settings) (network : Network) (now wall : Int) (machine : HostAnswer)
    (calls : List (Call Op)) :
    let k := course s network now wall machine calls
    Keeps s.node.metricDefinitions k.state k.world := by
  refine Course.run_induction (fun k => Keeps s.node.metricDefinitions k.state k.world) ?_ (fun k c h => ?_) calls
  · exact ⟨Channel.sound_new _ _ _ _ _, rfl, [], .empty _, rfl⟩
  · -- the clocks move before the call, which leaves the journal as it is
    have h : Keeps s.node.metricDefinitions k.state (k.world.atCall c) := ⟨h.sound, h.setting, h.journal⟩
    exact h.act c.op

/-- The accepted lines are those of commands among which each metric is defined at most once, and the writer takes for
described exactly the metrics defined there.  With metric definitions on, the definition of a metric comes before all
its values; with metric definitions off, nothing is defined. -/
theorem defined_once_before_values (s : Settings) (network : Network) (now wall : Int) (machine : HostAnswer)
    (calls : List (Call Op)) :
    let k := course s network now wall machine calls
    ∃ commands, Command.readAll? (String.join k.world.acceptedLines) = some commands ∧
      commands.map Command.line = k.world.acceptedLines.map Except.ok ∧
      (commands.filterMap Command.defined?).Nodup ∧
      (∀ m, m ∈ k.state.described ↔ m ∈ commands.filterMap Command.defined?) ∧
      (s.node.metricDefinitions = true → ∀ before c after m, commands = before ++ c :: after →
        c.measured? = some m → m ∈ before.filterMap Command.defined?) ∧
      (s.node.metricDefinitions = false → commands.filterMap Command.defined? = []) := by
  intro k
  obtain ⟨-, -, commands, journal, lines⟩ := keeps_course s network now wall machine calls
  refine ⟨commands, ?_, lines, journal.once, journal.described_iff, journal.first, journal.silent⟩
  exact Command.readAll?_of_map lines fun c hc => (journal.drafted c hc).legible.plain

/-- A sample that is written twice, with metric definitions on. -/
theorem defined_once_before_values_repeated :
    let s : Sample := { host := "h", plugin := "p", typeName := "t", time := 7, values := [⟨"value", .counter 5⟩] }
    let k := course {} .ideal 0 0 (.name []) [⟨.write s, 2, 2, .name []⟩, ⟨.write s, 5, 5, .name []⟩]
    ({} : Settings).node.metricDefinitions = true ∧
      ∃ commands, Command.readAll? (String.join k.world.acceptedLines) = some commands ∧
        ∀ before c after m, commands = before ++ c :: after → c.measured? = some m →
          m ∈ before.filterMap Command.defined? := by
  intro s k
  obtain ⟨commands, read, -, -, -, first, -⟩ := defined_once_before_values {} .ideal 0 0 (.name [])
    [⟨.write s, 2, 2, .name []⟩, ⟨.write s, 5, 5, .name []⟩]
  exact ⟨rfl, commands, read, first rfl⟩

end Writer

end MetricFeed
