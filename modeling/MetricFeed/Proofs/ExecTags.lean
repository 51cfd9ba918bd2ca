import MetricFeed.Proofs.DerivedSeries
import MetricFeed.Proofs.ValueTexts

/-!
# Tags in a type instance

A program gives its tags in the type instance of its samples: entries between semicolons, of which `key=value` is a tag
and any other text is none.  Cutting at semicolons undoes the joining (`Text.pieces_intercalate`) and cutting at the
first equals sign undoes an entry (`ExecEntry.pair?_text`), so the one series of a value has the pairs as its tags, the
last one first (`Rule.execTags_join`).  They stand in the line of the series and are read back from it, whatever the
values hold (`Observation.exec_tags_read_back`).
-/

namespace MetricFeed

/-- What is joined by a character that none of the parts holds is cut apart again. -/
theorem Text.pieces_intercalate {c : Char} {parts : List (List Char)} (some : parts ≠ [])
    (free : ∀ p ∈ parts, c ∉ p) : pieces c ([c].intercalate parts) = parts := by
  induction parts with
  | nil => exact absurd rfl some
  | cons p rest ih =>
    have first : c ∉ p := free p List.mem_cons_self
    cases rest with
    | nil => rw [List.intercalate_singleton, pieces_of_not_mem first]
    | cons q rest =>
      have others := ih (List.cons_ne_nil q rest) fun x mem => free x (List.mem_cons_of_mem p mem)
      rw [List.intercalate_cons_cons, List.append_assoc, List.singleton_append, pieces_append_cons first, others]

/-! ### Entries -/

/-- An entry of a type instance. -/
inductive ExecEntry where
  | pair (key value : String)
  /-- Stands for no tag. -/
  | word (text : String)

namespace ExecEntry

def text : ExecEntry → String
  | pair key value => key ++ "=" ++ value
  | word text => text

/-- No semicolon stands in an entry, and no equals sign but the one behind a key, or in a value. -/
def Sound : ExecEntry → Prop
  | pair key value => ';' ∉ key.toList ∧ '=' ∉ key.toList ∧ ';' ∉ value.toList
  | word text => ';' ∉ text.toList ∧ '=' ∉ text.toList

def pair? : ExecEntry → Option (String × String)
  | pair key value => some (key, value)
  | word _ => none

def tag? (e : ExecEntry) : Option Tag :=
  e.pair?.map fun p => ⟨p.1, p.2⟩

/-- The type instance with these entries. -/
def join (entries : List ExecEntry) : String :=
  ";".intercalate (entries.map text)

theorem semicolon_not_mem {e : ExecEntry} (sound : e.Sound) : ';' ∉ e.text.toList := by
  cases e with
  | pair key value =>
    obtain ⟨inKey, -, inValue⟩ := sound
    simp [text, inKey, inValue]
  | word text => exact sound.1

/-- The first equals sign of an entry is the one behind its key. -/
theorem pair?_text {e : ExecEntry} (sound : e.Sound) :
    (Text.cut? '=' e.text.toList).map (fun p => (String.ofList p.1, String.ofList p.2)) = e.pair? := by
  cases e with
  | pair key value =>
    obtain ⟨-, inKey, -⟩ := sound
    have shape : (pair key value).text.toList = key.toList ++ '=' :: value.toList := by simp [text]
    rw [shape, Text.cut?_append_cons inKey, Option.map_some, String.ofList_toList, String.ofList_toList]
    rfl
  | word text =>
    have none : Text.cut? '=' text.toList = none := Text.cut?_eq_none sound.2
    rw [ExecEntry.text, none]
    rfl

theorem toList_join (entries : List ExecEntry) :
    (join entries).toList = [';'].intercalate (entries.map fun e => e.text.toList) := by
  unfold join
  rw [String.toList_intercalate, List.map_map]
  rfl

theorem semicolon_mem_join {entries : List ExecEntry} (two : 2 ≤ entries.length) : ';' ∈ (join entries).toList := by
  match entries, two with
  | a :: b :: rest, _ =>
    rw [toList_join, List.map_cons, List.map_cons, List.intercalate_cons_cons]
    simp

theorem mem_filterMap_tag? {entries : List ExecEntry} {t : Tag} :
    t ∈ entries.filterMap tag? ↔ pair t.key t.value ∈ entries := by
  rw [List.mem_filterMap]
  constructor
  · rintro ⟨e, mem, tagged⟩
    cases e with
    | pair key value =>
      cases tagged
      exact mem
    | word text => cases tagged
  · exact fun mem => ⟨_, mem, rfl⟩

end ExecEntry

/-- The tags of a type instance are its pairs, the last one first. -/
theorem Rule.execTags_join {entries : List ExecEntry} (two : 2 ≤ entries.length) (sound : ∀ e ∈ entries, e.Sound) :
    execTags (ExecEntry.join entries) = (entries.filterMap ExecEntry.tag?).reverse := by
  have cut : Text.pieces ';' (ExecEntry.join entries).toList = entries.map fun e => e.text.toList := by
    rw [ExecEntry.toList_join]
    apply Text.pieces_intercalate
    · intro none
      rw [List.map_eq_nil_iff.1 none] at two
      simp at two
    · intro p mem
      obtain ⟨e, entry, rfl⟩ := List.mem_map.1 mem
      exact ExecEntry.semicolon_not_mem (sound e entry)
  have pairs : (entries.map fun e => e.text.toList).filterMap
      (fun entry => (Text.cut? '=' entry).map fun p => (String.ofList p.1, String.ofList p.2)) =
        entries.filterMap ExecEntry.pair? := by
    rw [List.filterMap_map]
    exact List.filterMap_congr fun e mem => ExecEntry.pair?_text (sound e mem)
  unfold execTags
  rw [if_pos (List.contains_iff_mem.2 (ExecEntry.semicolon_mem_join two)), cut, pairs, Tags.ofPairs_eq,
    List.map_filterMap]
  rfl

/-! ### The series of a program -/

namespace Observation

variable {o : Observation} {ds : DataSource}

/-- A program's value gives one series, if its name can be built. -/
theorem derive_of_exec (exec : Text.lower o.sample.plugin = "exec") (inRange : o.sample.values[o.index]? = some ds)
    {metric : String}
    (built : MetricName.build o.nameLimit o.namePrefix [o.sample.pluginInstance, o.rawSegment ds] = .ok metric) :
    o.derive = .ok
      [⟨o.entity, metric, o.text, o.metricTags ds, Rule.execTags o.sample.typeInstance, o.sample.time⟩] := by
  have busy : ¬o.IsIdle := fun idle => absurd (exec.symm.trans idle.1) (by decide)
  have noDisk : ¬o.sample.IsFreeShare := fun free => absurd (exec.symm.trans free.1) (by decide)
  rw [derive_eq inRange]
  unfold outlines
  rw [if_neg busy, if_neg noDisk, if_pos exec, List.mapM_cons, List.mapM_nil]
  unfold execute title
  rw [built]
  rfl

/-- A program's value whose type instance joins two entries or more gives one series under the name that its instance
makes.  The tags of the series are the pairs among the entries and nothing else, the last one first, and a reader of its
line, whatever follows it, finds them in this order; it only has to be told where the value ends, as it is for every
text of a value. -/
theorem exec_tags_read_back (exec : Text.lower o.sample.plugin = "exec")
    (inRange : o.sample.values[o.index]? = some ds) {entries : List ExecEntry} (two : 2 ≤ entries.length)
    (sound : ∀ e ∈ entries, e.Sound) (given : o.sample.typeInstance = ExecEntry.join entries) {metric : String}
    (built : MetricName.build o.nameLimit o.namePrefix [o.sample.pluginInstance, o.rawSegment ds] = .ok metric) :
    ∃ s, o.derive = .ok [s] ∧ s.metric = metric ∧ s.seriesTags = (entries.filterMap ExecEntry.tag?).reverse ∧
      ((∃ t ∈ s.seriesTags, t.key = "instance") ↔ ∃ value, .pair "instance" value ∈ entries) ∧
      (∀ rate, o.text = ds.value.text rate → ' ' ∉ o.text.toList) ∧
      (' ' ∉ o.text.toList → ∀ line, s.command.line = .ok line → ∀ rest,
        Command.take? (line.toList ++ rest) = some (.series o.entity metric o.text
          (entries.filterMap ExecEntry.tag?).reverse o.sample.time, rest)) := by
  have tags : Rule.execTags o.sample.typeInstance = (entries.filterMap ExecEntry.tag?).reverse := by
    rw [given, Rule.execTags_join two sound]
  have derived := derive_of_exec exec inRange built
  rw [tags] at derived
  refine ⟨_, derived, rfl, rfl, ?_, ?_, ?_⟩
  · constructor
    · rintro ⟨t, mem, key⟩
      have entry := ExecEntry.mem_filterMap_tag?.1 (List.mem_reverse.1 mem)
      rw [key] at entry
      exact ⟨t.value, entry⟩
    · rintro ⟨value, entry⟩
      exact ⟨⟨"instance", value⟩, List.mem_reverse.2 (ExecEntry.mem_filterMap_tag?.2 entry), rfl⟩
  · intro rate text space
    rw [text] at space
    exact absurd (ds.value.unbroken_text rate ' ' space) (by decide)
  · intro spaceless line rendered rest
    exact Command.take?_line rendered spaceless rest

/-- Repeated, empty and quoted texts, and more equals signs. -/
theorem exec_tags_read_back_quotes :
    let entries : List ExecEntry := [.pair "a" "1=\"2\"", .word "", .pair "" "", .word "junk", .pair "a" " t:"]
    let sample : Sample := {
      host := "h"
      plugin := "Exec"
      pluginInstance := "job"
      typeName := "gauge"
      typeInstance := "a=1=\"2\";;=;junk;a= t:"
      values := [⟨"value", .counter 3⟩] }
    let o : Observation := ⟨sample, 0, "h", "", 64, "3"⟩
    sample.typeInstance = ExecEntry.join entries ∧
      ∃ s line, o.derive = .ok [s] ∧ s.command.line = .ok line ∧ Command.take? line.toList =
        some (.series "h" "job.raw" "3" [⟨"a", " t:"⟩, ⟨"", ""⟩, ⟨"a", "1=\"2\""⟩] 0, []) := by
  intro entries sample o
  have given : o.sample.typeInstance = ExecEntry.join entries := by decide
  have sound : ∀ e ∈ entries, e.Sound := by
    intro e mem
    simp only [entries, List.mem_cons, List.not_mem_nil, or_false] at mem
    rcases mem with rfl | rfl | rfl | rfl | rfl <;> simp [ExecEntry.Sound]
  have exec : Text.lower o.sample.plugin = "exec" := by decide
  have inRange : o.sample.values[o.index]? = some ⟨"value", .counter 3⟩ := rfl
  have built : MetricName.build o.nameLimit o.namePrefix
      [o.sample.pluginInstance, o.rawSegment ⟨"value", .counter 3⟩] = .ok "job.raw" :=
    MetricName.build_eq_ok_iff.2 ⟨by decide, by decide, by decide, by decide⟩
  obtain ⟨s, derived, -, -, -, -, read⟩ := exec_tags_read_back exec inRange (by decide) sound given built
  cases derived.symm.trans (derive_of_exec exec inRange built)
  have rendered : (Command.series "h" "job.raw" "3" (Rule.execTags sample.typeInstance) 0).line =
      .ok "series e:\"h\" m:\"job.raw\"=3 t:\"a\"=\" t:\" t:\"\"=\"\" t:\"a\"=\"1=\"\"2\"\"\" ms:0 \n" := by
    decide
  have taken := read (by decide) _ rendered []
  rw [List.append_nil] at taken
  exact ⟨given, _, _, derived, rendered, taken⟩

end Observation

end MetricFeed
