import MetricFeed.Sample
import MetricFeed.Text.Utf8

/-!
# Keys of samples

The key of a sample is its plugin, type and their instances.  Keys are ordered by plugin, type, plugin instance and
type instance, each by its UTF-8 bytes; the order is total and agrees with equality (`compare_eq_iff`).
-/

namespace MetricFeed

structure SeriesKey where
  plugin : String
  pluginInstance : String
  typeName : String
  typeInstance : String
  deriving DecidableEq

def Sample.key (s : Sample) : SeriesKey :=
  ⟨s.plugin, s.pluginInstance, s.typeName, s.typeInstance⟩

namespace SeriesKey

def display (k : SeriesKey) : String :=
  k.plugin ++ "/" ++ k.pluginInstance ++ "/" ++ k.typeName ++ "/" ++ k.typeInstance

/-- The fields in the order in which they are compared. -/
def fields (k : SeriesKey) : List (List UInt8) :=
  [k.plugin, k.typeName, k.pluginInstance, k.typeInstance].map Text.bytes

/-- The first field that differs decides. -/
def compare (a b : SeriesKey) : Ordering :=
  List.compareLex (List.compareLex Ord.compare) a.fields b.fields

/-- The keys in their order. -/
def sort (keys : List SeriesKey) : List SeriesKey :=
  keys.mergeSort fun a b => (compare a b).isLE

theorem bytes_injective {a b : String} (h : Text.bytes a = Text.bytes b) : a = b := by
  cases a with
  | ofByteArray x _ =>
    cases b with
    | ofByteArray y _ =>
      cases x; cases y
      simp only [Text.bytes, Array.toList_inj] at h
      cases h
      rfl

theorem fields_injective {a b : SeriesKey} (h : a.fields = b.fields) : a = b := by
  cases a; cases b
  simp only [fields, List.map_cons, List.map_nil, List.cons.injEq, and_true] at h
  obtain ⟨h1, h2, h3, h4⟩ := h
  rw [bytes_injective h1, bytes_injective h2, bytes_injective h3, bytes_injective h4]

/-- The order of the fields. -/
abbrev compareFields : List (List UInt8) → List (List UInt8) → Ordering :=
  List.compareLex (List.compareLex Ord.compare)

instance : Std.TransCmp compare where
  eq_swap {a b} := @Std.OrientedCmp.eq_swap _ compareFields _ a.fields b.fields
  isLE_trans {a b c} := @Std.TransCmp.isLE_trans _ compareFields _ a.fields b.fields c.fields

instance : Std.LawfulEqCmp compare where
  compare_self {a} := @Std.ReflCmp.compare_self _ compareFields _ a.fields
  eq_of_compare h := fields_injective (Std.LawfulEqCmp.eq_of_compare h)

theorem compare_eq_iff {a b : SeriesKey} : compare a b = .eq ↔ a = b :=
  ⟨Std.LawfulEqCmp.eq_of_compare, fun h => h ▸ Std.ReflCmp.compare_self⟩

end SeriesKey

end MetricFeed
