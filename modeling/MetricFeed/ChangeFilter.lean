import MetricFeed.SeriesKey
import MetricFeed.ValueText
import Std.Data.TreeMap

/-!
# Suppressing unchanged values

For the plugins that have a policy, a value is suppressed while it stays close to the last value sent under its key
and that was sent recently.  A value that is sent becomes the one to compare with; a suppressed one does not, so a
slow drift is noticed in the end.  A check fails only if the filter does not hold what it has just looked up, which
never happens (`check_cases`).
-/

namespace MetricFeed

/-- How long, and within how many percent of the last sent value, values of a plugin are suppressed. -/
structure Policy where
  /-- In seconds. -/
  interval : Nat
  threshold : Float

/-- The last value sent under a key. -/
structure SentValue where
  text : String
  time : Nat
  deriving DecidableEq

inductive Decision where
  | send
  | suppress
  deriving DecidableEq

inductive FilterError where
  /-- The value under this key could not be taken out, or was still there afterwards. -/
  | inconsistent (key : String)
  deriving DecidableEq

def FilterError.message : FilterError → String
  | .inconsistent key => "cache entry for " ++ key ++ " still present after removal"

/-- The largest number of milliseconds an interval can count. -/
def maxInterval : Nat := 0xFFFFFFFFFFFFFFFF

/-- Under policy `p`, a value is sent again after `last`: the interval has passed, or the value differs from the
last one by more than the threshold. -/
def Policy.resends (p : Policy) (last : SentValue) (text : String) (time : Nat) : Bool :=
  let old := readValue last.text
  let change := (readValue text - old).abs
  min (p.interval * 1000) maxInterval < time - last.time || p.threshold * old / 100 < change

structure ChangeFilter where
  /-- By plugin; of two policies of a plugin the later one holds. -/
  policies : List (String × Policy)
  sent : Std.TreeMap SeriesKey SentValue SeriesKey.compare := {}
  suppressed : Nat := 0

namespace ChangeFilter

def policy? (f : ChangeFilter) (plugin : String) : Option Policy :=
  f.policies.reverse.lookup plugin

def tracks (f : ChangeFilter) (plugin : String) : Bool :=
  (f.policy? plugin).isSome

def last? (f : ChangeFilter) (key : SeriesKey) : Option SentValue :=
  f.sent[key]?

/-- The number of keys with a sent value. -/
def size (f : ChangeFilter) : Nat :=
  f.sent.size

def record (f : ChangeFilter) (key : SeriesKey) (text : String) (time : Nat) : ChangeFilter :=
  { f with sent := f.sent.insert key ⟨text, time⟩ }

/-- The filter without the value under a key. -/
def forget (f : ChangeFilter) (key : SeriesKey) : ChangeFilter :=
  { f with sent := f.sent.erase key }

/-- Send a value in the place of the last one of its key, which is taken out first. -/
def resend (f : ChangeFilter) (key : SeriesKey) (text : String) (time : Nat) :
    Except FilterError Decision × ChangeFilter :=
  match f.last? key with
  | none => (.error (.inconsistent key.display), f)
  | some _ =>
    let f := f.forget key
    match f.last? key with
    | none => (.ok .send, f.record key text time)
    | some _ => (.error (.inconsistent key.display), f)

/-- Decide on a value observed at `time` (in milliseconds). -/
def check (f : ChangeFilter) (key : SeriesKey) (text : String) (time : Nat) :
    Except FilterError Decision × ChangeFilter :=
  match f.policy? key.plugin with
  | none => (.ok .send, f)
  | some p =>
    match f.last? key with
    | none => (.ok .send, f.record key text time)
    | some last =>
      if p.resends last text time then f.resend key text time
      else (.ok .suppress, { f with suppressed := f.suppressed + 1 })

/-! ### Looking a key up -/

theorem last?_record (f : ChangeFilter) (key k : SeriesKey) (text : String) (time : Nat) :
    (f.record key text time).last? k = if key = k then some ⟨text, time⟩ else f.last? k := by
  simp only [record, last?, Std.TreeMap.getElem?_insert, SeriesKey.compare_eq_iff]

theorem last?_forget (f : ChangeFilter) (key k : SeriesKey) :
    (f.forget key).last? k = if key = k then none else f.last? k := by
  simp only [forget, last?, Std.TreeMap.getElem?_erase, SeriesKey.compare_eq_iff]

/-! ### The cases of a check -/

/-- What a check can come to. -/
inductive Checks (f : ChangeFilter) (key : SeriesKey) (text : String) (time : Nat) :
    Except FilterError Decision × ChangeFilter → Prop where
  | free (untracked : f.policy? key.plugin = none) : Checks f key text time (.ok .send, f)
  | first {p : Policy} (policy : f.policy? key.plugin = some p) (new : f.last? key = none) :
    Checks f key text time (.ok .send, f.record key text time)
  | again {p : Policy} {last : SentValue} (policy : f.policy? key.plugin = some p) (held : f.last? key = some last)
    (resends : p.resends last text time = true) :
    Checks f key text time (.ok .send, (f.forget key).record key text time)
  | close {p : Policy} {last : SentValue} (policy : f.policy? key.plugin = some p) (held : f.last? key = some last)
    (withheld : p.resends last text time = false) :
    Checks f key text time (.ok .suppress, { f with suppressed := f.suppressed + 1 })

variable (f : ChangeFilter) (key : SeriesKey) (text : String) (time : Nat)

/-- What was looked up is there, and is gone once it was taken out. -/
theorem resend_of_held {last : SentValue} (held : f.last? key = some last) :
    f.resend key text time = (.ok .send, (f.forget key).record key text time) := by
  have gone : (f.forget key).last? key = none := by
    rw [last?_forget, if_pos rfl]
  unfold resend
  rw [held]
  dsimp only
  rw [gone]

theorem check_cases : Checks f key text time (f.check key text time) := by
  unfold check
  cases policy : f.policy? key.plugin with
  | none => exact .free policy
  | some p =>
    cases held : f.last? key with
    | none => exact .first policy held
    | some last =>
      dsimp only
      split
      · rename_i resends
        rw [f.resend_of_held key text time held]
        exact .again policy held resends
      · rename_i withheld
        exact .close policy held (Bool.eq_false_iff.2 withheld)

theorem policies_check : (f.check key text time).2.policies = f.policies := by
  have checks := f.check_cases key text time
  generalize f.check key text time = r at checks ⊢
  cases checks with
  | free => rfl
  | first => rfl
  | again => rfl
  | close => rfl

end ChangeFilter

end MetricFeed
