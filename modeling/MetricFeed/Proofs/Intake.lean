import MetricFeed.Proofs.DerivedSeries
import MetricFeed.Proofs.JsonIntegers

/-!
# Which records become samples

A record becomes a sample exactly if its time is one, every value has a kind and a number that the kind takes, and the
rates come one per value (`Record.Admissible`).  The sample then holds what the record says (`Record.Becomes`), and
otherwise the error is that of the first fault of the record (`Record.FirstFault`).
-/

namespace MetricFeed

/-! ### Words with blanks around them -/

namespace Text

variable {lead word trail : List Char}

theorem dropWhile_isBlank_append (blank : ∀ c ∈ lead, isBlank c = true) (plain : ∀ c ∈ word, isBlank c = false) :
    (lead ++ word).dropWhile isBlank = word := by
  rw [List.dropWhile_append_of_pos blank]
  cases word with
  | nil => rfl
  | cons c cs => rw [List.dropWhile_cons_of_neg (by simpa using plain c List.mem_cons_self)]

/-- Blanks around a word without blanks are taken off. -/
theorem trimChars_word (before : ∀ c ∈ lead, isBlank c = true) (plain : ∀ c ∈ word, isBlank c = false)
    (behind : ∀ c ∈ trail, isBlank c = true) : trimChars (lead ++ word ++ trail) = word := by
  have back : ((word ++ trail).reverse.dropWhile isBlank).reverse = word := by
    rw [List.reverse_append, dropWhile_isBlank_append, List.reverse_reverse]
    · exact fun c mem => behind c (List.mem_reverse.1 mem)
    · exact fun c mem => plain c (List.mem_reverse.1 mem)
  unfold trimChars
  rw [List.append_assoc, List.dropWhile_append_of_pos before]
  cases word with
  | nil =>
    have all : ([] ++ trail).dropWhile isBlank = [] := List.dropWhile_eq_nil_iff.2 behind
    rw [all]
    rfl
  | cons c cs =>
    rw [List.cons_append, List.dropWhile_cons_of_neg (by simpa using plain c List.mem_cons_self)]
    exact back

/-- A text is what is left after trimming, with blanks around it. -/
theorem exists_trimChars (cs : List Char) :
    ∃ lead trail, cs = lead ++ trimChars cs ++ trail ∧ (∀ c ∈ lead, isBlank c = true) ∧
      ∀ c ∈ trail, isBlank c = true := by
  have taken {cs : List Char} : ∀ c ∈ cs.takeWhile isBlank, isBlank c = true := fun c mem =>
    List.mem_takeWhile_imp mem
  refine ⟨cs.takeWhile isBlank, ((cs.dropWhile isBlank).reverse.takeWhile isBlank).reverse, ?_, taken, ?_⟩
  · unfold trimChars
    rw [List.append_assoc, ← List.reverse_append, List.takeWhile_append_dropWhile, List.reverse_reverse,
      List.takeWhile_append_dropWhile]
  · exact fun c mem => taken c (List.mem_reverse.1 mem)

/-- No capital is a blank. -/
theorem toLower_of_isBlank {c : Char} (blank : isBlank c = true) : c.toLower = c := by
  unfold Char.toLower
  split
  · rename_i capital
    have range : 65 ≤ c.toNat ∧ c.toNat ≤ 90 := by
      simp only [ge_iff_le, UInt32.le_iff_toNat_le] at capital
      exact capital
    simp only [isBlank, Bool.or_eq_true, Bool.and_eq_true, beq_iff_eq, decide_eq_true_eq] at blank
    omega
  · rfl

end Text

/-! ### Names of kinds -/

namespace Kind

variable {k : Kind} {text : String}

/-- The text is the name of the kind in letters of either case, with blanks around it. -/
def Names (k : Kind) (text : String) : Prop :=
  ∃ lead word trail, text.toList = lead ++ word ++ trail ∧ (∀ c ∈ lead, Text.isBlank c = true) ∧
    (∀ c ∈ trail, Text.isBlank c = true) ∧ Text.lower (String.ofList word) = k.name

theorem not_isBlank_of_name {word : List Char} (name : Text.lower (String.ofList word) = k.name) :
    ∀ c ∈ word, Text.isBlank c = false := by
  intro c mem
  rw [Bool.eq_false_iff]
  intro blank
  have part : c.toLower ∈ (Text.lower (String.ofList word)).toList := by
    unfold Text.lower
    simpa using ⟨c, mem, rfl⟩
  rw [Text.toLower_of_isBlank blank, name] at part
  have plain : k.name.toList.all (fun c => !Text.isBlank c) = true := by cases k <;> rfl
  have same := List.all_eq_true.1 plain c part
  rw [blank] at same
  cases same

theorem names_iff : k.Names text ↔ Text.lower (Text.trim text) = k.name := by
  constructor
  · rintro ⟨lead, word, trail, split, before, behind, name⟩
    unfold Text.trim
    rw [split, Text.trimChars_word before (not_isBlank_of_name name) behind, name]
  · intro name
    obtain ⟨lead, trail, split, before, behind⟩ := Text.exists_trimChars text.toList
    exact ⟨lead, _, trail, split, before, behind, name⟩

/-- A text names one kind at most, and this is the one that is found. -/
theorem ofText?_eq_some_iff : ofText? text = some k ↔ k.Names text := by
  have same (k : Kind) : Text.eqIgnoreCase k.name (Text.trim text) = true ↔ k.Names text := by
    have small : Text.lower k.name = k.name := by cases k <;> decide
    rw [names_iff, Text.eqIgnoreCase_iff, small, eq_comm]
  constructor
  · intro found
    unfold ofText? at found
    have hit := List.find?_some found
    exact (same k).1 hit
  · intro named
    have only (k' : Kind) : Text.eqIgnoreCase k'.name (Text.trim text) = decide (k' = k) := by
      rw [Bool.eq_iff_iff, same, names_iff, names_iff.1 named, decide_eq_true_iff]
      cases k <;> cases k' <;> decide
    unfold ofText?
    simp only [only]
    cases k <;> rfl

theorem ofText?_eq_none_iff : ofText? text = none ↔ ∀ k : Kind, ¬k.Names text := by
  simp only [← ofText?_eq_some_iff, ← Option.eq_none_iff_forall_ne_some]

/-- The kind takes the number: a gauge takes any, the other kinds take whole numbers of their range. -/
def Takes : Kind → JsonNumber → Prop
  | .gauge, _ => True
  | .derive, n => ∃ i, n.integer? = some i ∧ -0x8000000000000000 ≤ i ∧ i < 0x8000000000000000
  | .counter, n | .absolute, n => ∃ i, n.integer? = some i ∧ 0 ≤ i ∧ i < 0x10000000000000000

end Kind

/-! ### Values -/

namespace Value

variable {k : Kind} {n : JsonNumber} {v : Value}

/-- The value is the number, a whole one exactly. -/
def Holds : Value → JsonNumber → Prop
  | .gauge x, n => x = n.toFloat
  | .derive d, n => n.integer? = some d.toInt
  | .counter c, n | .absolute c, n => n.integer? = some (c.toNat : Int)

theorem natural_of_integer? (sound : n.Sound) {c : UInt64} (whole : n.integer? = some (c.toNat : Int)) :
    n = .natural c := by
  cases n with
  | natural m =>
    have same : (m.toNat : Int) = c.toNat := Option.some.inj whole
    rw [UInt64.toNat_inj.1 (Int.ofNat_inj.1 same)]
  | negative m =>
    have same : m.toInt = c.toNat := Option.some.inj whole
    have below : m.toInt < 0 := sound
    omega
  | real x => cases whole

theorem derive_of_integer? {d : Int64} (whole : n.integer? = some d.toInt) :
    ofNumber? .derive n = some (.derive d) := by
  cases n with
  | natural m =>
    have same : (m.toNat : Int) = d.toInt := Option.some.inj whole
    have bounded := d.toInt_lt
    have fits : m.toNat < 0x8000000000000000 := by omega
    have back : Int64.ofNat m.toNat = d := by
      apply Int64.toInt_inj.1
      rw [Int64.toInt_ofNat_of_lt fits, same]
    rw [ofNumber?, if_pos fits, back]
  | negative m =>
    have same : m.toInt = d.toInt := Option.some.inj whole
    rw [Int64.toInt_inj.1 same]
    rfl
  | real x => cases whole

theorem holds_of_ofNumber? (made : ofNumber? k n = some v) : v.kind = k ∧ v.Holds n := by
  unfold ofNumber? at made
  split at made
  · cases made
    exact ⟨rfl, rfl⟩
  · cases made
    exact ⟨rfl, rfl⟩
  · cases made
    exact ⟨rfl, rfl⟩
  · split at made
    · rename_i fits
      cases made
      refine ⟨rfl, ?_⟩
      rw [Holds, Int64.toInt_ofNat_of_lt fits]
      rfl
    · cases made
  · cases made
    exact ⟨rfl, rfl⟩
  · cases made

/-- A number is made into the value of the kind that holds it. -/
theorem ofNumber?_eq_some_iff (sound : n.Sound) : ofNumber? k n = some v ↔ v.kind = k ∧ v.Holds n := by
  refine ⟨holds_of_ofNumber?, ?_⟩
  rintro ⟨rfl, holds⟩
  cases v with
  | gauge x =>
    cases holds
    rfl
  | derive d => exact derive_of_integer? holds
  | counter c =>
    cases natural_of_integer? sound holds
    rfl
  | absolute c =>
    cases natural_of_integer? sound holds
    rfl

end Value

/-- A kind takes the numbers that a value of it holds. -/
theorem Kind.takes_iff {k : Kind} {n : JsonNumber} : k.Takes n ↔ ∃ v : Value, v.kind = k ∧ v.Holds n := by
  have unsigned {i : Int} (least : 0 ≤ i) (most : i < 0x10000000000000000) :
      ((UInt64.ofNat i.toNat).toNat : Int) = i := by
    have fits : i.toNat < 0x10000000000000000 := by omega
    rw [UInt64.toNat_ofNat_of_lt' fits, Int.toNat_of_nonneg least]
  constructor
  · intro takes
    cases k with
    | gauge => exact ⟨.gauge n.toFloat, rfl, rfl⟩
    | counter =>
      obtain ⟨i, whole, least, most⟩ := takes
      refine ⟨.counter (.ofNat i.toNat), rfl, ?_⟩
      rw [Value.Holds, unsigned least most, whole]
    | derive =>
      obtain ⟨i, whole, least, most⟩ := takes
      refine ⟨.derive (.ofInt i), rfl, ?_⟩
      rw [Value.Holds, Int64.toInt_ofInt_of_le least most, whole]
    | absolute =>
      obtain ⟨i, whole, least, most⟩ := takes
      refine ⟨.absolute (.ofNat i.toNat), rfl, ?_⟩
      rw [Value.Holds, unsigned least most, whole]
  · rintro ⟨v, rfl, holds⟩
    have within (c : UInt64) : (c.toNat : Int) < 0x10000000000000000 := by
      have := c.toNat_lt
      omega
    cases v with
    | gauge x => trivial
    | counter c => exact ⟨c.toNat, holds, Int.natCast_nonneg _, within c⟩
    | derive d => exact ⟨d.toInt, holds, d.le_toInt, d.toInt_lt⟩
    | absolute c => exact ⟨c.toNat, holds, Int.natCast_nonneg _, within c⟩

/-! ### Values of a record -/

namespace ValueRecord

variable {v : ValueRecord} {ds : DataSource} {e : RecordError}

/-- There is a kind of the name that takes the number. -/
def Admissible (v : ValueRecord) : Prop :=
  ∃ k : Kind, k.Names v.kind ∧ k.Takes v.number

/-- The data source has the name, the kind and the number. -/
structure Gives (v : ValueRecord) (ds : DataSource) : Prop where
  name : ds.name = v.name
  kind : ds.value.kind.Names v.kind
  number : ds.value.Holds v.number

/-- What is wrong with the value: it has no kind, or its kind does not take the number. -/
inductive Fault (v : ValueRecord) : RecordError → Prop where
  | kind (unknown : ∀ k : Kind, ¬k.Names v.kind) : Fault v (.sample (.unknownKind v.kind))
  | number {k : Kind} (named : k.Names v.kind) (outside : ¬k.Takes v.number) : Fault v (.value v.name k v.number)

theorem toDataSource_of_unknown (unknown : ∀ k : Kind, ¬k.Names v.kind) :
    v.toDataSource = .error (.sample (.unknownKind v.kind)) := by
  have missing := Kind.ofText?_eq_none_iff.2 unknown
  unfold toDataSource Kind.ofText
  simp only [missing]

theorem toDataSource_of_some {k : Kind} (named : k.Names v.kind) {value : Value}
    (made : Value.ofNumber? k v.number = some value) : v.toDataSource = .ok ⟨v.name, value⟩ := by
  have found := Kind.ofText?_eq_some_iff.2 named
  unfold toDataSource Kind.ofText
  simp only [found, made]

theorem toDataSource_of_none {k : Kind} (named : k.Names v.kind) (outside : Value.ofNumber? k v.number = none) :
    v.toDataSource = .error (.value v.name k v.number) := by
  have found := Kind.ofText?_eq_some_iff.2 named
  unfold toDataSource Kind.ofText
  simp only [found, outside]

/-- The three ways a value can go: no kind, a number that the kind holds, and a number that it does not. -/
theorem toDataSource_cases (v : ValueRecord) :
    (∀ k : Kind, ¬k.Names v.kind) ∨ ∃ k : Kind, k.Names v.kind ∧
      ((∃ value, Value.ofNumber? k v.number = some value) ∨ Value.ofNumber? k v.number = none) := by
  cases found : Kind.ofText? v.kind with
  | none => exact .inl (Kind.ofText?_eq_none_iff.1 found)
  | some k =>
    refine .inr ⟨k, Kind.ofText?_eq_some_iff.1 found, ?_⟩
    cases Value.ofNumber? k v.number with
    | none => exact .inr rfl
    | some value => exact .inl ⟨value, rfl⟩

theorem toDataSource_eq_ok_iff (sound : v.number.Sound) : v.toDataSource = .ok ds ↔ v.Gives ds := by
  constructor
  · intro done
    rcases v.toDataSource_cases with unknown | ⟨k, named, ⟨value, made⟩ | outside⟩
    · rw [toDataSource_of_unknown unknown] at done
      cases done
    · rw [toDataSource_of_some named made] at done
      cases done
      obtain ⟨rfl, holds⟩ := Value.holds_of_ofNumber? made
      exact ⟨rfl, named, holds⟩
    · rw [toDataSource_of_none named outside] at done
      cases done
  · rintro ⟨name, kind, number⟩
    rw [toDataSource_of_some kind ((Value.ofNumber?_eq_some_iff sound).2 ⟨rfl, number⟩), ← name]

/-- No value of the kind holds a number that is made into none. -/
theorem not_takes_iff (sound : v.number.Sound) {k : Kind} :
    ¬k.Takes v.number ↔ Value.ofNumber? k v.number = none := by
  rw [Kind.takes_iff, Option.eq_none_iff_forall_ne_some, not_exists]
  exact forall_congr' fun value => not_congr (Value.ofNumber?_eq_some_iff sound).symm

theorem toDataSource_eq_error_iff (sound : v.number.Sound) : v.toDataSource = .error e ↔ v.Fault e := by
  constructor
  · intro failed
    rcases v.toDataSource_cases with unknown | ⟨k, named, ⟨value, made⟩ | outside⟩
    · rw [toDataSource_of_unknown unknown] at failed
      cases failed
      exact .kind unknown
    · rw [toDataSource_of_some named made] at failed
      cases failed
    · rw [toDataSource_of_none named outside] at failed
      cases failed
      exact .number named ((not_takes_iff sound).2 outside)
  · intro fault
    cases fault with
    | kind unknown => exact toDataSource_of_unknown unknown
    | number named outside => exact toDataSource_of_none named ((not_takes_iff sound).1 outside)

/-- The admissible values are those that give a data source. -/
theorem admissible_iff : v.Admissible ↔ ∃ ds, v.Gives ds := by
  constructor
  · rintro ⟨k, named, takes⟩
    obtain ⟨value, rfl, holds⟩ := Kind.takes_iff.1 takes
    exact ⟨⟨v.name, value⟩, rfl, named, holds⟩
  · rintro ⟨ds, -, kind, number⟩
    exact ⟨ds.value.kind, kind, Kind.takes_iff.2 ⟨ds.value, rfl, number⟩⟩

end ValueRecord

/-! ### The number of rates -/

theorem Sample.validate_eq_ok_iff {s : Sample} :
    s.validate = .ok () ↔ ∀ rates, s.rates = some rates → rates.length = s.values.length := by
  unfold validate
  split
  · rename_i rates given
    rw [given]
    split
    · rename_i fits
      exact ⟨fun _ _ same => Option.some.inj same ▸ fits, fun _ => rfl⟩
    · rename_i other
      exact ⟨nofun, fun fits => absurd (fits rates rfl) other⟩
  · rename_i missing
    rw [missing]
    exact ⟨fun _ => nofun, fun _ => rfl⟩

theorem Sample.validate_eq_error_iff {s : Sample} {e : SampleError} :
    s.validate = .error e ↔ ∃ rates, s.rates = some rates ∧ rates.length ≠ s.values.length ∧
      e = .rateCount rates.length s.values.length := by
  unfold validate
  split
  · rename_i rates given
    rw [given]
    split
    · rename_i fits
      exact ⟨nofun, fun ⟨_, same, other, _⟩ => absurd (Option.some.inj same ▸ fits) other⟩
    · rename_i other
      constructor
      · intro failed
        cases failed
        exact ⟨rates, rfl, other, rfl⟩
      · rintro ⟨_, same, -, rfl⟩
        cases same
        rfl
  · rename_i missing
    rw [missing]
    exact ⟨nofun, nofun⟩

/-! ### Records -/

namespace Record

variable {r : Record} {s : Sample} {e : RecordError}

/-- The rate is the one that is given; where none is given it is no number. -/
def Rated : Option Float → Float → Prop
  | none, x => x.isNaN = true
  | some given, x => x = given

/-- The time is a finite number that is not below zero. -/
def Timed (r : Record) : Prop :=
  r.time.isFinite = true ∧ ¬r.time < 0

/-- The rates, if there are any, come one per value. -/
def RatesFit (r : Record) : Prop :=
  ∀ rates, r.rates = some rates → rates.length = r.values.length

/-- What a record has to be like. -/
structure Admissible (r : Record) : Prop where
  time : r.Timed
  values : ∀ v ∈ r.values, v.Admissible
  rates : r.RatesFit

/-- The sample says what the record says. -/
structure Becomes (r : Record) (s : Sample) : Prop where
  entityHint : s.entityHint = r.entity
  host : s.host = r.host
  plugin : s.plugin = r.plugin
  pluginInstance : s.pluginInstance = r.pluginInstance
  typeName : s.typeName = r.typeName
  typeInstance : s.typeInstance = r.typeInstance
  labels : s.labels = r.labels
  time : s.time = millis r.time
  values : List.Forall₂ ValueRecord.Gives r.values s.values
  rates : Option.Rel (List.Forall₂ Rated) r.rates s.rates
  valid : s.validate = .ok ()

/-- What is wrong with the record, in the order of the checks: the time, the first value with a fault, the number of
rates. -/
inductive FirstFault (r : Record) : RecordError → Prop where
  | time (untimed : ¬r.Timed) : FirstFault r (.time r.time)
  | value {before after : List ValueRecord} {v : ValueRecord} {e : RecordError} (timed : r.Timed)
      (split : r.values = before ++ v :: after) (earlier : ∀ x ∈ before, x.Admissible) (fault : v.Fault e) :
      FirstFault r e
  | rates {rates : List (Option Float)} (timed : r.Timed) (values : ∀ v ∈ r.values, v.Admissible)
      (given : r.rates = some rates) (count : rates.length ≠ r.values.length) :
      FirstFault r (.sample (.rateCount rates.length r.values.length))

/-! ### The values and the rates of the sample -/

/-- The sample that holds the record, with its values made. -/
def sample (r : Record) (values : List DataSource) : Sample where
  entityHint := r.entity
  host := r.host
  plugin := r.plugin
  pluginInstance := r.pluginInstance
  typeName := r.typeName
  typeInstance := r.typeInstance
  time := millis r.time
  values := values
  rates := r.rates.map rateList
  labels := r.labels

theorem exists_toDataSource_iff {v : ValueRecord} (sound : v.number.Sound) :
    (∃ ds, v.toDataSource = .ok ds) ↔ v.Admissible := by
  rw [ValueRecord.admissible_iff]
  exact exists_congr fun ds => v.toDataSource_eq_ok_iff sound

theorem gives_of_made (sound : r.Sound) {values : List DataSource}
    (made : r.values.mapM ValueRecord.toDataSource = .ok values) :
    List.Forall₂ ValueRecord.Gives r.values values := by
  have pairs := made_of_mapM made
  rw [List.forall₂_iff_get] at pairs ⊢
  refine ⟨pairs.1, fun i short short' => ?_⟩
  exact (ValueRecord.toDataSource_eq_ok_iff (sound _ (List.get_mem _ _))).1 (pairs.2 i short short')

theorem rated_rateList (rates : List (Option Float)) : List.Forall₂ Rated rates (rateList rates) := by
  unfold rateList
  rw [List.forall₂_map_right_iff, List.forall₂_same]
  intro given _
  cases given with
  | none => rfl
  | some x => rfl

theorem validate_sample_eq_ok_iff {values : List DataSource} (length : r.values.length = values.length) :
    (r.sample values).validate = .ok () ↔ r.RatesFit := by
  unfold RatesFit
  rw [Sample.validate_eq_ok_iff, length]
  cases given : r.rates with
  | none => simp [sample, given]
  | some rates => simp [sample, given, rateList]

theorem validate_sample_eq_error_iff {values : List DataSource} (length : r.values.length = values.length)
    {e : SampleError} :
    (r.sample values).validate = .error e ↔ ∃ rates, r.rates = some rates ∧ rates.length ≠ r.values.length ∧
      e = .rateCount rates.length r.values.length := by
  rw [Sample.validate_eq_error_iff, length]
  cases given : r.rates with
  | none => simp [sample, given]
  | some rates => simp [sample, given, rateList]

/-! ### The checks in order -/

theorem isTime_iff : isTime r.time = true ↔ r.Timed := by
  unfold isTime Timed
  rw [Bool.and_eq_true, Bool.not_eq_true', decide_eq_false_iff_not]

theorem toSample_of_untimed (untimed : ¬r.Timed) : r.toSample = .error (.time r.time) := by
  have off : isTime r.time = false := Bool.eq_false_iff.2 fun on => untimed (isTime_iff.1 on)
  unfold toSample
  rw [off]
  rfl

theorem toSample_of_timed (timed : r.Timed) :
    r.toSample = r.values.mapM ValueRecord.toDataSource >>= fun values =>
      match (r.sample values).validate with
      | .error e => .error (.sample e)
      | .ok () => .ok (r.sample values) := by
  unfold toSample
  rw [isTime_iff.2 timed]
  rfl

theorem toSample_of_made (timed : r.Timed) {values : List DataSource}
    (made : r.values.mapM ValueRecord.toDataSource = .ok values) :
    r.toSample = match (r.sample values).validate with
      | .error e => .error (.sample e)
      | .ok () => .ok (r.sample values) := by
  rw [toSample_of_timed timed, made]
  rfl

theorem toSample_of_failed (timed : r.Timed) (failed : r.values.mapM ValueRecord.toDataSource = .error e) :
    r.toSample = .error e := by
  rw [toSample_of_timed timed, failed]
  rfl

theorem made_of_admissible (sound : r.Sound) (values : ∀ v ∈ r.values, v.Admissible) :
    ∃ all, r.values.mapM ValueRecord.toDataSource = .ok all := by
  cases made : r.values.mapM ValueRecord.toDataSource with
  | ok all => exact ⟨all, rfl⟩
  | error e =>
    obtain ⟨v, mem, failed⟩ := failed_of_mapM made
    obtain ⟨ds, gives⟩ := (exists_toDataSource_iff (sound v mem)).2 (values v mem)
    rw [failed] at gives
    cases gives

theorem admissible_of_made (sound : r.Sound) {values : List DataSource}
    (made : r.values.mapM ValueRecord.toDataSource = .ok values) : ∀ v ∈ r.values, v.Admissible := fun v mem =>
  (exists_toDataSource_iff (sound v mem)).1 (exists_of_mapM made v mem)

theorem toSample_of_admissible (sound : r.Sound) (admissible : r.Admissible) : ∃ s, r.toSample = .ok s := by
  obtain ⟨values, made⟩ := made_of_admissible sound admissible.values
  have length := (gives_of_made sound made).length_eq
  rw [toSample_of_made admissible.time made, (validate_sample_eq_ok_iff length).2 admissible.rates]
  exact ⟨_, rfl⟩

theorem admissible_of_toSample (sound : r.Sound) (done : r.toSample = .ok s) : r.Admissible ∧ r.Becomes s := by
  have timed : r.Timed := by
    by_contra untimed
    rw [toSample_of_untimed untimed] at done
    cases done
  cases made : r.values.mapM ValueRecord.toDataSource with
  | error e =>
    rw [toSample_of_failed timed made] at done
    cases done
  | ok values =>
    have gives := gives_of_made sound made
    rw [toSample_of_made timed made] at done
    split at done
    · cases done
    · rename_i valid
      cases done
      have fits := (validate_sample_eq_ok_iff gives.length_eq).1 valid
      have rates : Option.Rel (List.Forall₂ Rated) r.rates (r.rates.map rateList) := by
        cases r.rates with
        | none => exact .none
        | some rates => exact .some (rated_rateList rates)
      exact ⟨⟨timed, admissible_of_made sound made, fits⟩, rfl, rfl, rfl, rfl, rfl, rfl, rfl, rfl, gives, rates, valid⟩

/-- The values cannot be made if one of them has a fault, and the first of these decides the error. -/
theorem failed_iff (sound : r.Sound) :
    r.values.mapM ValueRecord.toDataSource = .error e ↔ ∃ before v after, r.values = before ++ v :: after ∧
      (∀ x ∈ before, x.Admissible) ∧ v.Fault e := by
  rw [mapM_eq_error_iff]
  refine exists_congr fun before => exists_congr fun v => exists_congr fun after => and_congr_right fun split => ?_
  have soundOf {x : ValueRecord} (mem : x ∈ before ++ v :: after) : x.number.Sound := sound x (split ▸ mem)
  refine and_congr (forall₂_congr fun x mem => ?_) ?_
  · exact exists_toDataSource_iff (soundOf (List.mem_append_left _ mem))
  · exact v.toDataSource_eq_error_iff (soundOf (List.mem_append_right _ List.mem_cons_self))

theorem firstFault_of_toSample (sound : r.Sound) (failed : r.toSample = .error e) : r.FirstFault e := by
  by_cases timed : r.Timed
  · cases made : r.values.mapM ValueRecord.toDataSource with
    | error e' =>
      rw [toSample_of_failed timed made] at failed
      cases failed
      obtain ⟨before, v, after, split, earlier, fault⟩ := (failed_iff sound).1 made
      exact .value timed split earlier fault
    | ok values =>
      have length := (gives_of_made sound made).length_eq
      rw [toSample_of_made timed made] at failed
      split at failed
      · rename_i e' invalid
        cases failed
        obtain ⟨rates, given, count, rfl⟩ := (validate_sample_eq_error_iff length).1 invalid
        exact .rates timed (admissible_of_made sound made) given count
      · cases failed
  · rw [toSample_of_untimed timed] at failed
    cases failed
    exact .time timed

theorem toSample_of_firstFault (sound : r.Sound) (fault : r.FirstFault e) : r.toSample = .error e := by
  cases fault with
  | time untimed => exact toSample_of_untimed untimed
  | value timed split earlier fault =>
    exact toSample_of_failed timed ((failed_iff sound).2 ⟨_, _, _, split, earlier, fault⟩)
  | rates timed values given count =>
    obtain ⟨all, made⟩ := made_of_admissible sound values
    have length := (gives_of_made sound made).length_eq
    rw [toSample_of_made timed made, (validate_sample_eq_error_iff length).2 ⟨_, given, count, rfl⟩]

/-- A record becomes a sample exactly if it is admissible, with all that it says, and otherwise its first fault is the
error.  Its whole numbers are those that are written as such. -/
theorem admitted_or_first_fault (r : Record) (sound : r.Sound) :
    ((∃ s, r.toSample = .ok s) ↔ r.Admissible) ∧ (∀ s, r.toSample = .ok s → r.Becomes s) ∧
      (∀ e, r.toSample = .error e ↔ r.FirstFault e) ∧
      ∀ v ∈ r.values, ∀ x : Json.Numeral, x.number? = some v.number → ∀ i, v.number.integer? = some i ↔ x.Writes i := by
  refine ⟨⟨?_, toSample_of_admissible sound⟩, ?_, ?_, ?_⟩
  · rintro ⟨s, done⟩
    exact (admissible_of_toSample sound done).1
  · intro s done
    exact (admissible_of_toSample sound done).2
  · intro e
    exact ⟨firstFault_of_toSample sound, toSample_of_firstFault sound⟩
  · intro v _ x read i
    exact Json.Numeral.integer?_of_number? read

/-- The largest and the smallest numbers, under names of kinds in letters of either case. -/
theorem admitted_or_first_fault_limits :
    let r : Record := {
      host := "web", plugin := "interface", typeName := "if_octets", time := 1.5
      values := [⟨"load", " Gauge", .real 5⟩, ⟨"rx", "COUNTER", .natural 0xFFFFFFFFFFFFFFFF⟩,
        ⟨"drift", "derive\n", .negative Int64.minValue⟩, ⟨"tx", "absolute", .natural 0⟩]
      rates := some [none, some 2.5, none, some 0] }
    r.Sound ∧ r.Admissible ∧ ∃ s, r.toSample = .ok s ∧ r.Becomes s := by
  intro r
  have sound : r.Sound := by
    intro v mem
    simp only [r, List.mem_cons, List.not_mem_nil, or_false] at mem
    rcases mem with rfl | rfl | rfl | rfl
    · trivial
    · trivial
    · show Int64.minValue.toInt < 0
      decide
    · trivial
  obtain ⟨admitted, becomes, -⟩ := admitted_or_first_fault r sound
  obtain ⟨s, done⟩ : ∃ s, r.toSample = .ok s := by
    unfold r
    exact ⟨_, rfl⟩
  exact ⟨sound, admitted.1 ⟨s, done⟩, s, done, becomes s done⟩

end Record

end MetricFeed
