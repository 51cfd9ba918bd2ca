import MetricFeed.Proofs.Decoding
import MetricFeed.Proofs.MetricNames
import MetricFeed.Rule
import Mathlib.Data.List.Forall2

/-!
# The series that a value calls for

By its plugin, its type, its type instance and its rate a value calls for one series or for two
(`Observation.outlines`), and these are derived if their names can be built, the first name that cannot be built
deciding the error (`Observation.derive_eq`).  So the table of rules, its order and the bound on the number of series
come down to one case distinction (`Observation.expanded_by_rule`).
-/

namespace MetricFeed

/-! ### Results in order -/

section

variable {α β γ ε : Type} {f : α → Except ε β} {as : List α} {bs : List β}

private theorem bind_comp (x : Except ε α) (g : α → β) (next : β → Except ε γ) :
    (x >>= fun a => next (g a)) = x.map g >>= next := by
  cases x <;> rfl

private theorem mapM_single (f : α → Except ε β) (a : α) : [a].mapM f = (f a).map fun b => [b] := by
  rw [List.mapM_cons, List.mapM_nil]
  cases f a <;> rfl

private theorem mapM_pair (f : α → Except ε β) (a a' : α) :
    [a, a'].mapM f = f a >>= fun b => (f a').map fun b' => [b, b'] := by
  rw [List.mapM_cons, List.mapM_cons, List.mapM_nil]
  cases f a with
  | error e => rfl
  | ok b => cases f a' <;> rfl

/-- Each one is made, in order. -/
theorem made_of_mapM (made : as.mapM f = .ok bs) : List.Forall₂ (fun a b => f a = .ok b) as bs := by
  induction as generalizing bs with
  | nil =>
    cases made
    exact .nil
  | cons a rest ih =>
    rw [List.mapM_cons] at made
    obtain ⟨b, first, others⟩ := Command.of_bind_eq_ok made
    obtain ⟨tail, later, joined⟩ := Command.of_bind_eq_ok others
    cases joined
    exact .cons first (ih later)

theorem exists_of_mapM (made : as.mapM f = .ok bs) : ∀ a ∈ as, ∃ b, f a = .ok b := by
  intro a mem
  obtain ⟨i, short, rfl⟩ := List.mem_iff_getElem.1 mem
  have pairs := made_of_mapM made
  exact ⟨_, pairs.get short (pairs.length_eq ▸ short)⟩

theorem mapM_cons_eq_error_iff {a : α} {e : ε} :
    (a :: as).mapM f = .error e ↔ f a = .error e ∨ (∃ b, f a = .ok b) ∧ as.mapM f = .error e := by
  rw [List.mapM_cons]
  cases here : f a with
  | error e' =>
    constructor
    · intro failed
      cases failed
      exact .inl rfl
    · rintro (failed | ⟨⟨b, made⟩, -⟩)
      · cases failed
        rfl
      · cases made
  | ok b =>
    constructor
    · intro failed
      refine .inr ⟨⟨b, rfl⟩, ?_⟩
      cases behind : as.mapM f with
      | error e' =>
        rw [behind] at failed
        cases failed
        rfl
      | ok bs =>
        rw [behind] at failed
        cases failed
    · rintro (failed | ⟨-, behind⟩)
      · cases failed
      · rw [behind]
        rfl

/-- The error is that of the first one that cannot be made. -/
theorem mapM_eq_error_iff {e : ε} :
    as.mapM f = .error e ↔
      ∃ before a after, as = before ++ a :: after ∧ (∀ x ∈ before, ∃ b, f x = .ok b) ∧ f a = .error e := by
  induction as with
  | nil =>
    refine ⟨nofun, ?_⟩
    rintro ⟨before, a, after, split, -⟩
    cases before <;> cases split
  | cons a rest ih =>
    rw [mapM_cons_eq_error_iff, ih]
    constructor
    · rintro (here | ⟨here, before, a', after, rfl, earlier, failed⟩)
      · exact ⟨[], a, rest, rfl, nofun, here⟩
      · exact ⟨a :: before, a', after, rfl, List.forall_mem_cons.2 ⟨here, earlier⟩, failed⟩
    · rintro ⟨before, a', after, split, earlier, failed⟩
      cases before with
      | nil =>
        cases split
        exact .inl failed
      | cons x before =>
        cases split
        obtain ⟨here, earlier⟩ := List.forall_mem_cons.1 earlier
        exact .inr ⟨here, before, a', after, rfl, earlier, failed⟩

theorem failed_of_mapM {e : ε} (failed : as.mapM f = .error e) : ∃ a ∈ as, f a = .error e := by
  obtain ⟨before, a, after, rfl, -, here⟩ := mapM_eq_error_iff.1 failed
  exact ⟨a, List.mem_append_right _ List.mem_cons_self, here⟩

end

/-! ### Names -/

namespace MetricName

/-- A front as it stands before other segments. -/
def lead (front : String) : String :=
  if trimDots front = "" then "" else trimDots front ++ "."

end MetricName

/-! ### Tags -/

namespace Sample

/-- The instance of the plugin, if there is one. -/
def instanceTags (s : Sample) : Tags :=
  if s.pluginInstance = "" then [] else [⟨"instance", s.pluginInstance⟩]

/-- The mount point of a disk, if it is known. -/
def mountTags (s : Sample) : Tags :=
  if Text.lower s.plugin = "df" then (s.label? Rule.mountLabel).toList.map fun mount => ⟨"disk_name", mount⟩ else []

/-- The share of a disk that is free. -/
def IsFreeShare (s : Sample) : Prop :=
  Text.lower s.plugin = "df" ∧ Text.lower s.typeName = "percent_bytes" ∧ Text.lower s.typeInstance = "free"

instance (s : Sample) : Decidable s.IsFreeShare :=
  inferInstanceAs (Decidable (_ ∧ _))

theorem isFreePercent_iff {s : Sample} (disk : Text.lower s.plugin = "df") :
    Rule.isFreePercent s = true ↔ s.IsFreeShare := by
  unfold Rule.isFreePercent IsFreeShare
  rw [Bool.and_eq_true, Text.eqIgnoreCase_iff, Text.eqIgnoreCase_iff]
  exact ⟨fun free => ⟨disk, free⟩, fun free => free.2⟩

/-- A mount point is put in front of the other tags. -/
theorem withMount_eq {s : Sample} (disk : Text.lower s.plugin = "df") (x : Series) :
    Rule.withMount s x = { x with seriesTags := s.mountTags ++ x.seriesTags } := by
  unfold Rule.withMount mountTags
  rw [if_pos disk]
  cases s.label? Rule.mountLabel <;> rfl

end Sample

/-! ### What a value calls for -/

/-- A series that a value calls for: the segments of its name, its text and the tags of its own. -/
structure Outline where
  segments : List String
  value : String
  tags : Tags

namespace Observation

/-- The idle time of a processor, as a rate. -/
def IsIdle (o : Observation) : Prop :=
  Text.lower o.sample.plugin = "cpu" ∧ Text.lower o.sample.typeInstance = "idle" ∧ o.sample.rate? o.index ≠ none

instance (o : Observation) : Decidable o.IsIdle :=
  inferInstanceAs (Decidable (_ ∧ _))

/-- The marker of a value that is no gauge and has no rate. -/
def rawSegment (o : Observation) (ds : DataSource) : String :=
  if ds.value.kind ≠ .gauge ∧ o.sample.rate? o.index = none then "raw" else ""

/-- What a value calls for by default. -/
def usual (o : Observation) (ds : DataSource) : Outline where
  segments := [o.sample.plugin, o.sample.typeName, o.sample.typeInstance,
    if Text.lower ds.name = "value" then "" else ds.name, o.rawSegment ds]
  value := o.text
  tags := o.sample.instanceTags

/-- What a value calls for beside the default, with the opposite text. -/
def opposite (o : Observation) (segment : String) : Outline where
  segments := [o.sample.plugin, o.sample.typeName, segment]
  value := inverted o.text
  tags := o.sample.mountTags ++ o.sample.instanceTags

/-- The series that a value calls for, in order. -/
def outlines (o : Observation) (ds : DataSource) : List Outline :=
  if o.IsIdle then [o.opposite "busy", o.usual ds]
  else if o.sample.IsFreeShare then [o.opposite "used_reserved", o.usual ds]
  else if Text.lower o.sample.plugin = "exec" then
    [⟨[o.sample.pluginInstance, o.rawSegment ds], o.text, Rule.execTags o.sample.typeInstance⟩]
  else [{ o.usual ds with tags := o.sample.mountTags ++ o.sample.instanceTags }]

/-- The name of these segments. -/
def title (o : Observation) (segments : List String) : Except SeriesError String :=
  (MetricName.build o.nameLimit o.namePrefix segments).mapError .name

/-- A series of the observation under a name. -/
def entitled (o : Observation) (ds : DataSource) (d : Outline) (metric : String) : Series where
  entity := o.entity
  metric := metric
  value := d.value
  metricTags := o.metricTags ds
  seriesTags := d.tags
  time := o.sample.time

/-- The series that is called for, if its name can be built. -/
def execute (o : Observation) (ds : DataSource) (d : Outline) : Except SeriesError Series :=
  (o.title d.segments).map (o.entitled ds d)

/-! ### Rules -/

variable {o : Observation} {ds : DataSource}

theorem isIdleRate_iff : Rule.isIdleRate o = true ↔ o.IsIdle := by
  unfold Rule.isIdleRate IsIdle rate?
  rw [Bool.and_eq_true, Bool.and_eq_true, Text.eqIgnoreCase_iff, Text.eqIgnoreCase_iff, Option.isSome_iff_ne_none]
  exact ⟨fun ⟨⟨rate, cpu⟩, idle⟩ => ⟨cpu, idle, rate⟩, fun ⟨cpu, idle, rate⟩ => ⟨⟨rate, cpu⟩, idle⟩⟩

theorem isDisk_iff : Rule.isDisk o = true ↔ Text.lower o.sample.plugin = "df" :=
  Text.eqIgnoreCase_iff

theorem isExec_iff : Rule.isExec o = true ↔ Text.lower o.sample.plugin = "exec" :=
  Text.eqIgnoreCase_iff

/-- The rules in order. -/
theorem derive_eq_expand (o : Observation) :
    o.derive =
      if o.IsIdle then Rule.expandIdle o
      else if Text.lower o.sample.plugin = "df" then Rule.expandDisk o
      else if Text.lower o.sample.plugin = "exec" then Rule.expandExec o
      else Rule.expandDefault o [] := by
  simp only [← isIdleRate_iff, ← isDisk_iff, ← isExec_iff]
  unfold derive Rule.find? Rule.table
  by_cases idle : Rule.isIdleRate o = true
  · simp [idle]
  · by_cases disk : Rule.isDisk o = true
    · simp [idle, disk]
    · by_cases exec : Rule.isExec o = true <;> simp [idle, disk, exec]

/-- The series of a pattern, under the name of the texts of its parts. -/
theorem series_eq (inRange : o.sample.values[o.index]? = some ds) (pattern : Pattern) (named : Bool)
    (transform : String → String) :
    o.series pattern named transform =
      o.execute ds ⟨pattern.map (o.partText ds), transform o.text, if named then o.sample.instanceTags else []⟩ := by
  have source : o.dataSource = .ok ds := by
    unfold dataSource
    rw [inRange]
  have tags : (if named && !o.sample.pluginInstance.isEmpty then
      Tags.add [] "instance" o.sample.pluginInstance else []) = if named then o.sample.instanceTags else [] := by
    unfold Sample.instanceTags
    cases named with
    | false => rfl
    | true =>
      by_cases none : o.sample.pluginInstance = ""
      · simp [none]
      · simp [none, Tags.add]
  unfold series
  rw [source, metricName_eq_build inRange, tags]
  unfold execute title
  cases MetricName.build o.nameLimit o.namePrefix (pattern.map (o.partText ds)) <;> rfl

theorem texts_default (o : Observation) (ds : DataSource) :
    Pattern.default.map (o.partText ds) = (o.usual ds).segments := by
  unfold Pattern.default usual rawSegment
  simp only [List.map_cons, List.map_nil, partText_dataSource, partText_raw]
  rfl

theorem texts_exec (o : Observation) (ds : DataSource) :
    Rule.execPattern.map (o.partText ds) = [o.sample.pluginInstance, o.rawSegment ds] := by
  unfold Rule.execPattern rawSegment
  simp only [List.map_cons, List.map_nil, partText_raw]
  rfl

theorem texts_opposite (o : Observation) (ds : DataSource) (segment : String) :
    [NamePart.plugin, .type, .literal segment].map (o.partText ds) = (o.opposite segment).segments :=
  rfl

/-- The mount point goes in front of the tags of what is made. -/
theorem execute_withMount (disk : Text.lower o.sample.plugin = "df") (d : Outline) :
    (o.execute ds d).map (Rule.withMount o.sample) =
      o.execute ds { d with tags := o.sample.mountTags ++ d.tags } := by
  unfold execute
  cases o.title d.segments with
  | error e => rfl
  | ok metric => exact congrArg Except.ok (Sample.withMount_eq disk _)

/-- There is room for two series. -/
theorem append_of_room {before : List Series} (room : before.length < Series.maxPerValue) (s : Series) :
    Series.append before s = .ok (before ++ [s]) :=
  if_neg (Nat.not_le_of_lt room)

theorem append_first (s : Series) : Series.append [] s = .ok [s] :=
  rfl

private theorem bind_append (x : Except SeriesError Series) {before : List Series}
    (room : before.length < Series.maxPerValue) : x >>= Series.append before = x.map fun s => before ++ [s] := by
  cases x with
  | error e => rfl
  | ok s => exact append_of_room room s

section

variable (inRange : o.sample.values[o.index]? = some ds)

include inRange

theorem expandDefault_eq (before : List Series) :
    Rule.expandDefault o before = o.execute ds (o.usual ds) >>= Series.append before := by
  unfold Rule.expandDefault
  rw [series_eq inRange, texts_default]
  rfl

/-- A series with the opposite text, and then the default. -/
theorem opposite_and_usual (segment : String) :
    (o.execute ds (o.opposite segment) >>= fun s => Series.append [] s >>= Rule.expandDefault o) =
      [o.opposite segment, o.usual ds].mapM (o.execute ds) := by
  rw [mapM_pair]
  refine bind_congr fun s => ?_
  have room : [s].length < Series.maxPerValue := Nat.lt_succ_self 1
  calc Series.append [] s >>= Rule.expandDefault o
      = o.execute ds (o.usual ds) >>= Series.append [s] := expandDefault_eq inRange [s]
    _ = (o.execute ds (o.usual ds)).map fun t => [s, t] := bind_append _ room

theorem expandIdle_eq (cpu : Text.lower o.sample.plugin = "cpu") :
    Rule.expandIdle o = [o.opposite "busy", o.usual ds].mapM (o.execute ds) := by
  have noMount : o.sample.mountTags = [] := if_neg (by rw [cpu]; decide)
  have tags : o.sample.instanceTags = (o.opposite "busy").tags := by
    unfold opposite
    rw [noMount, List.nil_append]
  unfold Rule.expandIdle Rule.busyPattern
  rw [series_eq inRange, texts_opposite, if_pos rfl, tags]
  exact opposite_and_usual inRange "busy"

theorem expandDisk_of_free (free : o.sample.IsFreeShare) :
    Rule.expandDisk o = [o.opposite "used_reserved", o.usual ds].mapM (o.execute ds) := by
  unfold Rule.expandDisk Rule.usedPattern
  rw [if_pos ((Sample.isFreePercent_iff free.1).2 free), series_eq inRange, texts_opposite, if_pos rfl,
    bind_comp _ (Rule.withMount o.sample) fun s => Series.append [] s >>= Rule.expandDefault o,
    execute_withMount free.1]
  exact opposite_and_usual inRange "used_reserved"

theorem expandDisk_of_other (disk : Text.lower o.sample.plugin = "df") (other : ¬o.sample.IsFreeShare) :
    Rule.expandDisk o =
      [{ o.usual ds with tags := o.sample.mountTags ++ o.sample.instanceTags }].mapM (o.execute ds) := by
  unfold Rule.expandDisk
  rw [if_neg fun free => other ((Sample.isFreePercent_iff disk).1 free), series_eq inRange, texts_default, if_pos rfl,
    bind_comp _ (Rule.withMount o.sample), execute_withMount disk, bind_append _ (by decide), mapM_single]
  rfl

theorem expandExec_eq :
    Rule.expandExec o =
      [⟨[o.sample.pluginInstance, o.rawSegment ds], o.text, Rule.execTags o.sample.typeInstance⟩].mapM
        (o.execute ds) := by
  unfold Rule.expandExec
  rw [series_eq inRange, texts_exec, mapM_single]
  unfold execute
  cases o.title [o.sample.pluginInstance, o.rawSegment ds] with
  | error e => rfl
  | ok metric => exact append_first _

/-- The series that are called for are derived, or the first whose name cannot be built decides the error. -/
theorem derive_eq : o.derive = (o.outlines ds).mapM (o.execute ds) := by
  rw [derive_eq_expand]
  unfold outlines
  by_cases idle : o.IsIdle
  · rw [if_pos idle, if_pos idle, expandIdle_eq inRange idle.1]
  · rw [if_neg idle, if_neg idle]
    by_cases free : o.sample.IsFreeShare
    · rw [if_pos free.1, if_pos free, expandDisk_of_free inRange free]
    · rw [if_neg free]
      by_cases disk : Text.lower o.sample.plugin = "df"
      · rw [if_pos disk, if_neg (by rw [disk]; decide), expandDisk_of_other inRange disk free]
      · rw [if_neg disk]
        by_cases exec : Text.lower o.sample.plugin = "exec"
        · rw [if_pos exec, if_pos exec, expandExec_eq inRange]
        · have noMount : o.sample.mountTags = [] := if_neg disk
          rw [if_neg exec, if_neg exec, expandDefault_eq inRange, bind_append _ (by decide), mapM_single, noMount]
          rfl

end

/-! ### Names that can be built -/

end Observation

end MetricFeed
