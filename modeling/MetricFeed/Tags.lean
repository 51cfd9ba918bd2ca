/-!
# Tags

A tag list grows at the front: iterating it gives the newest tag first, and looking a key up gives the newest tag of
that key.  Two tags may share a key.
-/

namespace MetricFeed

structure Tag where
  key : String
  value : String
  deriving DecidableEq

/-- Newest first. -/
abbrev Tags := List Tag

namespace Tags

def add (t : Tags) (key value : String) : Tags :=
  ⟨key, value⟩ :: t

/-- The value of the newest tag with this key. -/
def get? (t : Tags) (key : String) : Option String :=
  (t.find? fun tag => tag.key == key).map Tag.value

/-- The tags added in the order given. -/
def ofPairs (pairs : List (String × String)) : Tags :=
  pairs.foldl (fun t p => t.add p.1 p.2) []

theorem get?_add (t : Tags) (key value k : String) :
    (t.add key value).get? k = if key = k then some value else t.get? k := by
  by_cases h : key = k <;> simp [add, get?, h]

theorem foldl_add_eq (pairs : List (String × String)) (t : Tags) :
    pairs.foldl (fun t p => t.add p.1 p.2) t = (pairs.map fun p => (⟨p.1, p.2⟩ : Tag)).reverse ++ t := by
  induction pairs generalizing t with
  | nil => rfl
  | cons p ps ih =>
    rw [List.foldl_cons, ih]
    simp [add]

theorem ofPairs_eq (pairs : List (String × String)) :
    ofPairs pairs = (pairs.map fun p => (⟨p.1, p.2⟩ : Tag)).reverse := by
  simp [ofPairs, foldl_add_eq]

end Tags

end MetricFeed
