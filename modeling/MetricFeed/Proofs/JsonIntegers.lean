import MetricFeed.Proofs.JsonSteps
import MetricFeed.Record

/-!
# Whole numbers in documents

A number in a document is a whole number if it is written in digits alone and fits 64 bits (`Json.Numeral.Writes`), and
what is read as negative is below zero.  The latter holds of every number anywhere in a value that is read
(`Json.sound_of_read?`), so of every number that a record brings along (`Record.sound_of_read?`).
-/

namespace MetricFeed

namespace JsonNumber

/-- The whole number it is; a double is none, even without a fraction. -/
def integer? : JsonNumber → Option Int
  | .natural n => some n.toNat
  | .negative n => some n.toInt
  | .real _ => none

/-- What stands as negative is below zero. -/
def Sound : JsonNumber → Prop
  | .negative n => n.toInt < 0
  | _ => True

end JsonNumber

namespace Json

/-! ### Numerals -/

namespace Numeral

variable {x : Numeral} {n : JsonNumber} {i : Int}

/-- The numeral writes a whole number of 64 bits: digits alone, behind a sign at most, and no negative zero. -/
structure Writes (x : Numeral) (i : Int) : Prop where
  fraction : x.fraction = []
  exponent : x.exponent = none
  value : i = if x.negative then -(Number.digitsValue x.whole : Int) else (Number.digitsValue x.whole : Int)
  sign : x.negative = true → i ≠ 0
  least : -0x8000000000000000 ≤ i
  most : i < 0x10000000000000000

theorem integer?_of_negative (fraction : x.fraction = []) (exponent : x.exponent = none) (sign : x.negative = true) :
    x.integer? = some n ↔ (Number.digitsValue x.whole ≠ 0 ∧ Number.digitsValue x.whole ≤ 0x8000000000000000) ∧
      JsonNumber.negative (Int64.ofInt (-Number.digitsValue x.whole)) = n := by
  unfold integer?
  dsimp only
  rw [fraction, exponent, sign, if_neg (by decide), if_pos rfl, Option.ite_none_right_eq_some, Bool.and_eq_true,
    decide_eq_true_iff, decide_eq_true_iff, Option.some.injEq]

theorem integer?_of_natural (fraction : x.fraction = []) (exponent : x.exponent = none) (sign : x.negative = false) :
    x.integer? = some n ↔ Number.digitsValue x.whole < 0x10000000000000000 ∧
      JsonNumber.natural (UInt64.ofNat (Number.digitsValue x.whole)) = n := by
  have bound : Number.digitsValue x.whole ≤ maxSignificand ↔ Number.digitsValue x.whole < 0x10000000000000000 := by
    unfold maxSignificand
    omega
  unfold integer?
  dsimp only
  rw [fraction, exponent, sign, if_neg (by decide), if_neg (by decide), Option.ite_none_right_eq_some, bound,
    Option.some.injEq]

/-- Only digits alone are read as a whole number. -/
theorem parts_of_integer? (h : x.integer? = some n) : x.fraction = [] ∧ x.exponent = none := by
  unfold integer? at h
  dsimp only at h
  split at h
  · cases h
  · rename_i whole
    simpa using whole

theorem toInt_ofInt_neg {m : Nat} (h : m ≤ 0x8000000000000000) : (Int64.ofInt (-m)).toInt = -m :=
  Int64.toInt_ofInt_of_le (by omega) (by omega)

theorem sound_of_integer? (h : x.integer? = some n) : n.Sound := by
  obtain ⟨fraction, exponent⟩ := parts_of_integer? h
  cases sign : x.negative with
  | true =>
    obtain ⟨⟨some, bounded⟩, rfl⟩ := (integer?_of_negative fraction exponent sign).1 h
    unfold JsonNumber.Sound
    dsimp only
    rw [toInt_ofInt_neg bounded]
    omega
  | false =>
    obtain ⟨-, rfl⟩ := (integer?_of_natural fraction exponent sign).1 h
    trivial

theorem writes_iff : x.Writes i ↔ ∃ n, x.integer? = some n ∧ n.integer? = some i := by
  constructor
  · rintro ⟨fraction, exponent, value, nonzero, least, most⟩
    cases sign : x.negative with
    | true =>
      have nonzero := nonzero sign
      rw [sign, if_pos rfl] at value
      have bounded : Number.digitsValue x.whole ≤ 0x8000000000000000 := by omega
      refine ⟨_, (integer?_of_negative fraction exponent sign).2 ⟨⟨by omega, bounded⟩, rfl⟩, ?_⟩
      rw [JsonNumber.integer?, toInt_ofInt_neg bounded, value]
    | false =>
      rw [sign, if_neg Bool.false_ne_true] at value
      have bounded : Number.digitsValue x.whole < 0x10000000000000000 := by omega
      refine ⟨_, (integer?_of_natural fraction exponent sign).2 ⟨bounded, rfl⟩, ?_⟩
      rw [JsonNumber.integer?, UInt64.toNat_ofNat_of_lt' bounded, value]
  · rintro ⟨n, read, whole⟩
    obtain ⟨fraction, exponent⟩ := parts_of_integer? read
    cases sign : x.negative with
    | true =>
      obtain ⟨⟨nonzero, bounded⟩, rfl⟩ := (integer?_of_negative fraction exponent sign).1 read
      rw [JsonNumber.integer?, toInt_ofInt_neg bounded] at whole
      cases whole
      exact ⟨fraction, exponent, by rw [sign, if_pos rfl], fun _ => by omega, by omega, by omega⟩
    | false =>
      obtain ⟨bounded, rfl⟩ := (integer?_of_natural fraction exponent sign).1 read
      rw [JsonNumber.integer?, UInt64.toNat_ofNat_of_lt' bounded] at whole
      cases whole
      exact ⟨fraction, exponent, by rw [sign, if_neg Bool.false_ne_true], fun h => absurd (sign.symm.trans h) nofun,
        by omega, by omega⟩

/-- A numeral is read as the whole number it writes, and as a double if it writes none. -/
theorem integer?_of_number? (read : x.number? = some n) : n.integer? = some i ↔ x.Writes i := by
  rw [writes_iff]
  unfold number? at read
  cases whole : x.integer? with
  | some n' =>
    rw [whole] at read
    cases read
    exact ⟨fun h => ⟨_, rfl, h⟩, fun ⟨_, same, h⟩ => Option.some.inj same ▸ h⟩
  | none =>
    rw [whole] at read
    obtain ⟨v, -, rfl⟩ := Option.map_eq_some_iff.1 read
    exact ⟨nofun, fun ⟨_, found, _⟩ => nomatch found⟩

theorem sound_of_number? (read : x.number? = some n) : n.Sound := by
  unfold number? at read
  cases whole : x.integer? with
  | some n' =>
    rw [whole] at read
    cases read
    exact sound_of_integer? whole
  | none =>
    rw [whole] at read
    obtain ⟨v, -, rfl⟩ := Option.map_eq_some_iff.1 read
    trivial

end Numeral

/-! ### Documents -/

/-- Every number in the value is sound. -/
inductive Sound : Json → Prop where
  | null : Sound .null
  | bool (b : Bool) : Sound (.bool b)
  | number {n : Option JsonNumber} (sound : ∀ m, n = some m → m.Sound) : Sound (.number n)
  | string (s : Option String) : Sound (.string s)
  | array {items : List Json} (sound : ∀ j ∈ items, j.Sound) : Sound (.array items)
  | object {entries : List (Option String × Json)} (sound : ∀ e ∈ entries, e.2.Sound) : Sound (.object entries)

/-- What is read is sound. -/
def Reliable (read : List Char → Option (Json × List Char)) : Prop :=
  ∀ cs r, read cs = some r → r.1.Sound

variable {fuel : Nat}

theorem reliable_takeValue? (items : Reliable (takeItems? fuel [])) (entries : Reliable (takeEntries? fuel [])) :
    Reliable (takeValue? (fuel + 1)) := by
  intro cs r h
  rw [takeValue?] at h
  split at h
  · cases h
    exact .null
  · cases h
    exact .bool true
  · cases h
    exact .bool false
  · obtain ⟨text, -, rfl⟩ := Option.map_eq_some_iff.1 h
    exact .string text.1
  · split at h
    · cases h
      exact .array fun j mem => absurd mem List.not_mem_nil
    · exact items _ r h
  · split at h
    · cases h
      exact .object fun e mem => absurd mem List.not_mem_nil
    · exact entries _ r h
  · obtain ⟨number, -, rfl⟩ := Option.map_eq_some_iff.1 h
    exact .number fun m read => Numeral.sound_of_number? read

theorem reliable_takeItems? (value : Reliable (takeValue? fuel))
    (items : ∀ done : List Json, (∀ j ∈ done, j.Sound) → Reliable (takeItems? fuel done))
    (done : List Json) (sound : ∀ j ∈ done, j.Sound) : Reliable (takeItems? (fuel + 1) done) := by
  intro cs r h
  rw [takeItems?] at h
  obtain ⟨⟨item, rest⟩, taken, h⟩ := Option.bind_eq_some_iff.1 h
  have all : ∀ j ∈ item :: done, j.Sound := List.forall_mem_cons.2 ⟨value cs _ taken, sound⟩
  dsimp only at h
  split at h
  · exact items _ all _ r h
  · cases h
    exact .array fun j mem => all j (List.mem_reverse.1 mem)
  · cases h

theorem reliable_takeEntries? (value : Reliable (takeValue? fuel))
    (entries : ∀ done : List (Option String × Json), (∀ e ∈ done, e.2.Sound) → Reliable (takeEntries? fuel done))
    (done : List (Option String × Json)) (sound : ∀ e ∈ done, e.2.Sound) :
    Reliable (takeEntries? (fuel + 1) done) := by
  intro cs r h
  rw [takeEntries?] at h
  obtain ⟨⟨key, after⟩, -, h⟩ := Option.bind_eq_some_iff.1 h
  obtain ⟨⟨item, rest⟩, taken, h⟩ := Option.bind_eq_some_iff.1 h
  have all : ∀ e ∈ (key, item) :: done, e.2.Sound := List.forall_mem_cons.2 ⟨value after _ taken, sound⟩
  dsimp only at h
  split at h
  · exact entries _ all _ r h
  · cases h
    exact .object fun e mem => all e (List.mem_reverse.1 mem)
  · cases h

theorem reliable_take (fuel : Nat) :
    Reliable (takeValue? fuel) ∧ (∀ done, (∀ j ∈ done, j.Sound) → Reliable (takeItems? fuel done)) ∧
      ∀ done, (∀ e ∈ done, e.2.Sound) → Reliable (takeEntries? fuel done) := by
  induction fuel with
  | zero => exact ⟨nofun, fun _ _ => nofun, fun _ _ => nofun⟩
  | succ fuel ih =>
    obtain ⟨value, items, entries⟩ := ih
    exact ⟨reliable_takeValue? (items [] nofun) (entries [] nofun), reliable_takeItems? value items,
      reliable_takeEntries? value entries⟩

theorem sound_of_read? {s : String} {j : Json} (read : read? s = some j) : j.Sound := by
  unfold read? at read
  split at read
  · rename_i value rest taken
    split at read
    · cases read
      exact (reliable_take _).1 _ _ taken
    · cases read
  · cases read

theorem Sound.items {j : Json} (sound : j.Sound) {items : List Json} (h : j.items? = some items) :
    ∀ item ∈ items, item.Sound := by
  cases sound with
  | array sound =>
    cases h
    exact sound
  | _ => cases h

theorem Sound.entries {j : Json} (sound : j.Sound) {names : List String} {entries : List (Option String × Json)}
    (h : j.entries? names = some entries) : ∀ e ∈ entries, e.2.Sound := by
  cases sound with
  | array sound =>
    cases h
    exact fun e mem => sound e.2 (List.of_mem_zip mem).2
  | object sound =>
    cases h
    exact sound
  | _ => cases h

theorem Sound.number? {j : Json} (sound : j.Sound) {n : JsonNumber} (h : j.number? = some n) : n.Sound := by
  cases sound with
  | number sound => exact sound n h
  | _ => cases h

end Json

/-! ### Records -/

namespace Record

open Json (Sound)

/-- Every number among the values is sound. -/
def Sound (r : Record) : Prop :=
  ∀ v ∈ r.values, v.number.Sound

theorem sound_of_known? {names : List String} {all : List (Option String × Json)} {entries : List (String × Json)}
    (h : known? names all = some entries) (sound : ∀ e ∈ all, e.2.Sound) : ∀ e ∈ entries, e.2.Sound := by
  induction all generalizing entries with
  | nil =>
    cases h
    exact nofun
  | cons first rest ih =>
    obtain ⟨key, value⟩ := first
    obtain ⟨here, behind⟩ := List.forall_mem_cons.1 sound
    cases key with
    | none => cases h
    | some key =>
      rw [known?] at h
      obtain ⟨others, later, h⟩ := Option.bind_eq_some_iff.1 h
      have later := ih later behind
      split at h
      · cases h
        exact later
      · split at h
        · cases h
        · cases h
          exact List.forall_mem_cons.2 ⟨here, later⟩

theorem sound_of_field? {α : Type} {entries : List (String × Json)} (sound : ∀ e ∈ entries, e.2.Sound) {name : String}
    {read : Json → Option α} {a : α} (h : field? entries name read = some a) :
    ∃ j : Json, j.Sound ∧ read j = some a := by
  obtain ⟨j, found, taken⟩ := Option.bind_eq_some_iff.1 h
  obtain ⟨before, after, split, -⟩ := List.lookup_eq_some_iff.1 found
  refine ⟨j, sound (name, j) ?_, taken⟩
  rw [split]
  exact List.mem_append_right _ List.mem_cons_self

theorem sound_of_readValue? {j : Json} (sound : j.Sound) {v : ValueRecord} (h : readValue? j = some v) :
    v.number.Sound := by
  unfold readValue? at h
  obtain ⟨all, taken, h⟩ := Option.bind_eq_some_iff.1 h
  obtain ⟨entries, known, h⟩ := Option.bind_eq_some_iff.1 h
  obtain ⟨name, -, h⟩ := Option.bind_eq_some_iff.1 h
  obtain ⟨kind, -, h⟩ := Option.bind_eq_some_iff.1 h
  obtain ⟨number, given, h⟩ := Option.bind_eq_some_iff.1 h
  cases h
  obtain ⟨value, sound, read⟩ := sound_of_field? (sound_of_known? known (sound.entries taken)) given
  exact sound.number? read

theorem sound_of_mapM {items : List Json} (sound : ∀ j ∈ items, j.Sound) {values : List ValueRecord}
    (h : items.mapM readValue? = some values) : ∀ v ∈ values, v.number.Sound := by
  induction items generalizing values with
  | nil =>
    cases h
    exact nofun
  | cons item rest ih =>
    rw [List.mapM_cons] at h
    obtain ⟨first, here, h⟩ := Option.bind_eq_some_iff.1 h
    obtain ⟨others, behind, h⟩ := Option.bind_eq_some_iff.1 h
    cases h
    obtain ⟨soundHere, soundBehind⟩ := List.forall_mem_cons.1 sound
    exact List.forall_mem_cons.2 ⟨sound_of_readValue? soundHere here, ih soundBehind behind⟩

theorem sound_of_readValues? {j : Json} (sound : j.Sound) {values : List ValueRecord}
    (h : readValues? j = some values) : ∀ v ∈ values, v.number.Sound := by
  obtain ⟨items, taken, read⟩ := Option.bind_eq_some_iff.1 h
  exact sound_of_mapM (sound.items taken) read

theorem sound_of_ofJson? {j : Json} (sound : j.Sound) {r : Record} (h : ofJson? j = some r) : r.Sound := by
  unfold ofJson? at h
  obtain ⟨all, taken, h⟩ := Option.bind_eq_some_iff.1 h
  obtain ⟨entries, known, h⟩ := Option.bind_eq_some_iff.1 h
  obtain ⟨entity, -, h⟩ := Option.bind_eq_some_iff.1 h
  obtain ⟨host, -, h⟩ := Option.bind_eq_some_iff.1 h
  obtain ⟨plugin, -, h⟩ := Option.bind_eq_some_iff.1 h
  obtain ⟨pluginInstance, -, h⟩ := Option.bind_eq_some_iff.1 h
  obtain ⟨typeName, -, h⟩ := Option.bind_eq_some_iff.1 h
  obtain ⟨typeInstance, -, h⟩ := Option.bind_eq_some_iff.1 h
  obtain ⟨time, -, h⟩ := Option.bind_eq_some_iff.1 h
  obtain ⟨values, given, h⟩ := Option.bind_eq_some_iff.1 h
  obtain ⟨rates, -, h⟩ := Option.bind_eq_some_iff.1 h
  obtain ⟨labels, -, h⟩ := Option.bind_eq_some_iff.1 h
  cases h
  obtain ⟨list, sound, read⟩ := sound_of_field? (sound_of_known? known (sound.entries taken)) given
  exact sound_of_readValues? sound read

/-- Every record that is read from a line is sound. -/
theorem sound_of_read? {line : String} {r : Record} (h : (Json.read? line).bind ofJson? = some r) : r.Sound := by
  obtain ⟨j, read, made⟩ := Option.bind_eq_some_iff.1 h
  exact sound_of_ofJson? (Json.sound_of_read? read) made

end Record

end MetricFeed
