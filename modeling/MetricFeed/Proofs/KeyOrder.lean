import MetricFeed.ChangeFilter
import MetricFeed.Proofs.Course
import Mathlib.Data.List.Induction

/-!
# The order of keys

Keys are compared field by field, and two fields by the first byte in which they differ (`SeriesKey.compare_eq_lt_iff`).
This order is total and agrees with equality, so there is one arrangement of any list of keys (`SeriesKey.sort_eq_iff`),
and a map that is ordered by it holds under each key what was last put there, under that key and no other
(`getElem?_edited`).
-/

namespace MetricFeed

/-! ### Texts by their bytes -/

namespace Text

/-- Some bytes come before others: they end where the others go on, or they have the smaller byte at the first place
where the two differ. -/
def BytesBefore (as bs : List UInt8) : Prop :=
  (∃ b rest, bs = as ++ b :: rest) ∨
    ∃ shared a as' b bs', as = shared ++ a :: as' ∧ bs = shared ++ b :: bs' ∧ a < b

section

variable {a b : UInt8} {as bs : List UInt8}

theorem bytesBefore_nil_cons : BytesBefore [] (b :: bs) :=
  .inl ⟨b, bs, rfl⟩

theorem not_bytesBefore_nil : ¬BytesBefore as [] := by
  rintro (⟨b, rest, eq⟩ | ⟨shared, a, as', b, bs', -, eq, -⟩)
  · exact List.append_ne_nil_of_right_ne_nil as (List.cons_ne_nil b rest) eq.symm
  · exact List.append_ne_nil_of_right_ne_nil shared (List.cons_ne_nil b bs') eq.symm

/-- The first bytes decide, or the rest does if they are equal. -/
theorem bytesBefore_cons_cons : BytesBefore (a :: as) (b :: bs) ↔ a < b ∨ a = b ∧ BytesBefore as bs := by
  constructor
  · rintro (⟨c, rest, eq⟩ | ⟨shared, x, as', y, bs', eqA, eqB, less⟩)
    · obtain ⟨rfl, rfl⟩ := List.cons.inj eq
      exact .inr ⟨rfl, .inl ⟨c, rest, rfl⟩⟩
    · cases shared with
      | nil =>
        cases eqA
        cases eqB
        exact .inl less
      | cons z shared =>
        obtain ⟨rfl, rfl⟩ := List.cons.inj eqA
        obtain ⟨rfl, rfl⟩ := List.cons.inj eqB
        exact .inr ⟨rfl, .inr ⟨shared, x, as', y, bs', rfl, rfl, less⟩⟩
  · rintro (less | ⟨rfl, ⟨c, rest, rfl⟩ | ⟨shared, x, as', y, bs', rfl, rfl, less⟩⟩)
    · exact .inr ⟨[], a, as, b, bs, rfl, rfl, less⟩
    · exact .inl ⟨c, rest, rfl⟩
    · exact .inr ⟨a :: shared, x, as', y, bs', rfl, rfl, less⟩

theorem compareLex_eq_lt_iff : List.compareLex compare as bs = .lt ↔ BytesBefore as bs := by
  induction as generalizing bs with
  | nil =>
    cases bs with
    | nil => exact iff_of_false nofun not_bytesBefore_nil
    | cons b bs => exact iff_of_true rfl bytesBefore_nil_cons
  | cons a as ih =>
    cases bs with
    | nil => exact iff_of_false nofun not_bytesBefore_nil
    | cons b bs =>
      rw [List.compareLex_cons_cons, Ordering.then_eq_lt, ih, bytesBefore_cons_cons, Std.compare_eq_lt,
        Std.LawfulEqOrd.compare_eq_iff_eq]

end

/-- A text comes before another one by its bytes. -/
def Before (a b : String) : Prop :=
  BytesBefore (bytes a) (bytes b)

theorem compareBytes_eq_lt_iff {a b : String} : compareBytes a b = .lt ↔ Before a b :=
  compareLex_eq_lt_iff

theorem compareBytes_eq_eq_iff {a b : String} : compareBytes a b = .eq ↔ a = b := by
  constructor
  · intro h
    exact SeriesKey.bytes_injective (Std.LawfulEqCmp.eq_of_compare h)
  · rintro rfl
    exact @Std.ReflCmp.compare_self _ (List.compareLex compare) _ (bytes a)

end Text

namespace SeriesKey

/-! ### Comparing keys -/

/-- A key comes before another one by the first of plugin, type, plugin instance and type instance in which the two
differ. -/
def Precedes (a b : SeriesKey) : Prop :=
  Text.Before a.plugin b.plugin ∨ a.plugin = b.plugin ∧
    (Text.Before a.typeName b.typeName ∨ a.typeName = b.typeName ∧
      (Text.Before a.pluginInstance b.pluginInstance ∨ a.pluginInstance = b.pluginInstance ∧
        Text.Before a.typeInstance b.typeInstance))

section

variable {a b c : SeriesKey}

/-- The four comparisons, one after the other. -/
theorem compare_eq_then (a b : SeriesKey) : compare a b =
    (Text.compareBytes a.plugin b.plugin).then ((Text.compareBytes a.typeName b.typeName).then
      ((Text.compareBytes a.pluginInstance b.pluginInstance).then
        (Text.compareBytes a.typeInstance b.typeInstance))) := by
  unfold compare fields Text.compareBytes
  simp only [List.map_cons, List.map_nil, List.compareLex_cons_cons, List.compareLex_nil_nil, Ordering.then_eq]

theorem compare_eq_lt_iff : compare a b = .lt ↔ a.Precedes b := by
  unfold Precedes
  simp only [compare_eq_then, Ordering.then_eq_lt, Text.compareBytes_eq_lt_iff, Text.compareBytes_eq_eq_iff]

theorem compare_eq_eq_iff : compare a b = .eq ↔ a.plugin = b.plugin ∧ a.typeName = b.typeName ∧
    a.pluginInstance = b.pluginInstance ∧ a.typeInstance = b.typeInstance := by
  simp only [compare_eq_then, Ordering.then_eq_eq, Text.compareBytes_eq_eq_iff]

theorem compare_swap : compare b a = (compare a b).swap :=
  Std.OrientedCmp.eq_swap

/-- Two comparisons with the same outcome give it for the outer keys as well. -/
theorem compare_trans {o : Ordering} (hab : compare a b = o) (hbc : compare b c = o) : compare a c = o := by
  cases o with
  | lt => exact Std.TransCmp.lt_trans hab hbc
  | eq => exact Std.TransCmp.eq_trans hab hbc
  | gt => exact Std.TransCmp.gt_trans hab hbc

end

/-! ### Sorting -/

/-- The list holds the keys, each as often, in their order. -/
structure Arranges (sorted keys : List SeriesKey) : Prop where
  perm : sorted.Perm keys
  ordered : sorted.Pairwise fun a b => (compare a b).isLE

section

variable {keys sorted sorted' : List SeriesKey}

theorem arranges_sort (keys : List SeriesKey) : Arranges (sort keys) keys where
  perm := List.mergeSort_perm keys _
  ordered := by
    refine List.pairwise_mergeSort (fun a b c => Std.TransCmp.isLE_trans) (fun a b => ?_) keys
    rw [compare_swap (a := a) (b := b)]
    cases compare a b <;> rfl

/-- Keys that are not told apart by the order are equal, so the order leaves no choice. -/
theorem Arranges.unique (h : Arranges sorted keys) (h' : Arranges sorted' keys) : sorted = sorted' := by
  refine (h.perm.trans h'.perm.symm).eq_of_pairwise (fun a b _ _ hab hba => ?_) h.ordered h'.ordered
  exact compare_eq_iff.1 (Std.OrientedCmp.isLE_antisymm hab hba)

theorem sort_eq_iff : sort keys = sorted ↔ Arranges sorted keys := by
  constructor
  · rintro rfl
    exact arranges_sort keys
  · exact (arranges_sort keys).unique

/-- The same keys in another order are sorted into the same list. -/
theorem sort_eq_of_perm {keys' : List SeriesKey} (perm : keys'.Perm keys) : sort keys' = sort keys := by
  have arranges := arranges_sort keys'
  exact Arranges.unique ⟨arranges.perm.trans perm, arranges.ordered⟩ (arranges_sort keys)

end

/-! ### Maps in this order -/

/-- A change to what a map holds under a key. -/
inductive Edit (β : Type) where
  | put (key : SeriesKey) (value : β)
  | remove (key : SeriesKey)

section

variable {β : Type}

def Edit.key : Edit β → SeriesKey
  | put key _ => key
  | remove key => key

/-- What is held under its key afterwards. -/
def Edit.value? : Edit β → Option β
  | put _ value => some value
  | remove _ => none

def Edit.apply (m : Std.TreeMap SeriesKey β compare) : Edit β → Std.TreeMap SeriesKey β compare
  | put key value => m.insert key value
  | remove key => m.erase key

/-- The map that changes, one after the other, make of an empty one. -/
def edited (edits : List (Edit β)) : Std.TreeMap SeriesKey β compare :=
  edits.foldl Edit.apply {}

/-- The value was put under the key, and no later change names a key with the same four fields. -/
def LastPut (edits : List (Edit β)) (key : SeriesKey) (v : β) : Prop :=
  ∃ before after, edits = before ++ .put key v :: after ∧ ∀ e ∈ after, e.key ≠ key

/-- A change reaches its own key only. -/
theorem Edit.getElem?_apply (m : Std.TreeMap SeriesKey β compare) (e : Edit β) (key : SeriesKey) :
    (e.apply m)[key]? = if e.key = key then e.value? else m[key]? := by
  cases e with
  | put k value => exact Std.TreeMap.getElem?_insert.trans (if_congr compare_eq_iff rfl rfl)
  | remove k => exact Std.TreeMap.getElem?_erase.trans (if_congr compare_eq_iff rfl rfl)

theorem lastPut_concat (edits : List (Edit β)) (e : Edit β) (key : SeriesKey) (v : β) :
    LastPut (edits ++ [e]) key v ↔ if e.key = key then e.value? = some v else LastPut edits key v := by
  constructor
  · rintro ⟨before, after, eq, later⟩
    -- the last change under the key is the new one, or it stands before that
    rcases Course.entry_of_concat eq with ⟨-, rfl, rfl⟩ | ⟨after, rfl, rfl⟩
    · exact (if_pos rfl).mpr rfl
    · rw [if_neg (later e (by simp))]
      exact ⟨before, after, rfl, fun x mem => later x (by simp [mem])⟩
  · split
    · rename_i same
      intro put
      cases e with
      | put k value =>
        cases same
        cases put
        exact ⟨edits, [], rfl, fun x mem => by cases mem⟩
      | remove k => cases put
    · rename_i other
      rintro ⟨before, after, rfl, later⟩
      refine ⟨before, after ++ [e], by simp, fun x mem => ?_⟩
      rcases List.mem_append.1 mem with mem | mem
      · exact later x mem
      · rw [List.mem_singleton.1 mem]
        exact other

theorem edited_concat (edits : List (Edit β)) (e : Edit β) : edited (edits ++ [e]) = e.apply (edited edits) := by
  unfold edited
  rw [List.foldl_append, List.foldl_cons, List.foldl_nil]

theorem getElem?_edited (edits : List (Edit β)) (key : SeriesKey) (v : β) :
    (edited edits)[key]? = some v ↔ LastPut edits key v := by
  induction edits using List.reverseRecOn with
  | nil =>
    constructor
    · intro h
      cases h
    · rintro ⟨before, after, eq, -⟩
      simp at eq
  | append_singleton edits e ih =>
    rw [edited_concat, Edit.getElem?_apply, lastPut_concat]
    split
    · rfl
    · exact ih

/-- The keys of a map stand in their order, so none of them twice. -/
theorem keys_edited (edits : List (Edit β)) : (edited edits).keys.Pairwise Precedes ∧ (edited edits).keys.Nodup :=
  ⟨Std.TreeMap.ordered_keys.imp compare_eq_lt_iff.1, Std.TreeMap.nodup_keys⟩

end

/-- Comparing keys tells apart exactly those that differ in a field, gives the reverse for the reverse pair, is
transitive, and goes by the bytes of plugin, type, plugin instance and type instance, in this order.  So any list of
keys has one arrangement, which sorting gives whatever the order before, and a map in this order holds no key twice and
under each the value that was last put under that very key. -/
theorem totally_ordered (a b c : SeriesKey) (keys : List SeriesKey) {β : Type} (edits : List (Edit β)) :
    (compare a b = .eq ↔ a.plugin = b.plugin ∧ a.typeName = b.typeName ∧
      a.pluginInstance = b.pluginInstance ∧ a.typeInstance = b.typeInstance) ∧
    compare b a = (compare a b).swap ∧
    (∀ o, compare a b = o → compare b c = o → compare a c = o) ∧
    (compare a b = .lt ↔ a.Precedes b) ∧
    (∀ sorted, sort keys = sorted ↔ Arranges sorted keys) ∧
    (∀ keys', keys'.Perm keys → sort keys' = sort keys) ∧
    (edited edits).keys.Pairwise Precedes ∧ (edited edits).keys.Nodup ∧
    ∀ key v, (edited edits)[key]? = some v ↔ LastPut edits key v := by
  obtain ⟨ordered, nodup⟩ := keys_edited edits
  exact ⟨compare_eq_eq_iff, compare_swap, fun o => compare_trans, compare_eq_lt_iff, fun sorted => sort_eq_iff,
    fun keys' => sort_eq_of_perm, ordered, nodup, getElem?_edited edits⟩

/-- Keys of which the type decides before the plugin instance. -/
theorem totally_ordered_types :
    let a : SeriesKey := ⟨"cpu", "1", "percent", "idle"⟩
    let b : SeriesKey := ⟨"cpu", "0", "time", "idle"⟩
    let c : SeriesKey := ⟨"cpu", "2", "time", "idle"⟩
    let edits : List (Edit Nat) := [.put a 1, .put b 2, .put a 3, .remove b]
    compare a b = .lt ∧ compare b c = .lt ∧ compare a c = .lt ∧
      [c, b, a].Perm [a, b, c] ∧ sort [c, b, a] = [a, b, c] ∧ LastPut edits a 3 ∧ (edited edits)[a]? = some 3 := by
  intro a b c edits
  have first : compare a b = .lt := by decide
  have second : compare b c = .lt := by decide
  obtain ⟨-, -, trans, -, arranged, again, -, -, held⟩ := totally_ordered a b c [a, b, c] edits
  have third : compare a c = .lt := trans .lt first second
  have perm : [c, b, a].Perm [a, b, c] := by decide
  have sorted : sort [a, b, c] = [a, b, c] := by
    refine (arranged _).2 ⟨.refl _, ?_⟩
    simp [first, second, third]
  have last : LastPut edits a 3 := ⟨[.put a 1, .put b 2], [.remove b], rfl, by decide⟩
  exact ⟨first, second, third, perm, (again _ perm).trans sorted, last, (held a 3).2 last⟩

end SeriesKey

end MetricFeed
