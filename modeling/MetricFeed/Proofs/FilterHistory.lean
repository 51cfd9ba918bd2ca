import MetricFeed.ChangeFilter
import MetricFeed.Proofs.Course
import Mathlib.Data.Finset.Card
import Mathlib.Data.Finset.Insert
import Mathlib.Data.List.Induction

/-!
# What a change filter has decided

A filter that starts empty is put before readings of any keys, at any times.  Every decision is settled by the decisions
before it: a reading is compared with the last one of its key that was sent, and with no other (`decided_by_history`).
What the filter holds at any point is the last reading sent under each key (`Judged.remembers`), so the readings of
other keys can be left out (`judged_filter_key`).
-/

namespace MetricFeed

/-- A value that is put before a filter. -/
structure Reading where
  key : SeriesKey
  text : String
  time : Nat
  deriving DecidableEq

def Reading.value (r : Reading) : SentValue := ⟨r.text, r.time⟩

/-- A reading is close to another one and was made soon after it, or before. -/
def Policy.Withholds (p : Policy) (last r : Reading) : Prop :=
  max 0 ((r.time : Int) - last.time) ≤ min (p.interval * 1000) maxInterval ∧
    ¬p.threshold * readValue last.text / 100 < (readValue r.text - readValue last.text).abs

namespace Policy

theorem resends_eq_false_iff (p : Policy) (last r : Reading) :
    p.resends last.value r.text r.time = false ↔ p.Withholds last r := by
  have elapsed : max 0 ((r.time : Int) - last.time) = (r.time - last.time : Nat) := by omega
  unfold resends Withholds Reading.value
  rw [elapsed]
  simp only [Bool.or_eq_false_iff, decide_eq_false_iff_not, Nat.not_lt]
  norm_cast

end Policy

namespace ChangeFilter

/-! ### One decision -/

/-- What is decided on a reading whose plugin has this policy, after this value was sent under its key. -/
def verdict (policy : Option Policy) (last : Option SentValue) (r : Reading) : Decision :=
  match policy, last with
  | none, _ => .send
  | some _, none => .send
  | some p, some last => if p.resends last r.text r.time then .send else .suppress

theorem tracks_of_policy? {f : ChangeFilter} {plugin : String} {p : Policy} (h : f.policy? plugin = some p) :
    f.tracks plugin = true := by
  unfold tracks
  rw [h]
  rfl

variable (f : ChangeFilter) (r : Reading)

/-- A check of a reading, and the filter after it. -/
def judge : Except FilterError Decision × ChangeFilter :=
  f.check r.key r.text r.time

/-- What is decided on a reading. -/
def decision : Decision :=
  verdict (f.policy? r.key.plugin) (f.last? r.key) r

theorem judge_cases : Checks f r.key r.text r.time (f.judge r) :=
  f.check_cases r.key r.text r.time

theorem policies_judge : (f.judge r).2.policies = f.policies :=
  policies_check f r.key r.text r.time

/-- A check does not fail. -/
theorem judge_fst : (f.judge r).1 = .ok (f.decision r) := by
  have checks := f.judge_cases r
  generalize f.judge r = judged at checks ⊢
  unfold decision verdict
  cases checks with
  | free untracked => rw [untracked]
  | first policy new => rw [policy, new]
  | again policy held resends =>
    rw [policy, held]
    dsimp only
    rw [if_pos resends]
  | close policy held withheld =>
    rw [policy, held]
    dsimp only
    rw [withheld]
    rfl

theorem check_eq (key : SeriesKey) (text : String) (time : Nat) : f.check key text time =
    (.ok (f.decision ⟨key, text, time⟩), (f.judge ⟨key, text, time⟩).2) :=
  Prod.ext (f.judge_fst ⟨key, text, time⟩) rfl

theorem suppressed_judge :
    (f.judge r).2.suppressed = f.suppressed + if f.decision r = .suppress then 1 else 0 := by
  have checks := f.judge_cases r
  have decided := f.judge_fst r
  generalize f.judge r = judged at checks decided ⊢
  cases checks with
  | close =>
    rw [← Except.ok.inj decided]
    rfl
  | _ =>
    rw [← Except.ok.inj decided]
    rfl

theorem last?_judge (k : SeriesKey) : (f.judge r).2.last? k =
    if f.tracks r.key.plugin ∧ f.decision r = .send ∧ r.key = k then some r.value else f.last? k := by
  have checks := f.judge_cases r
  have decided := f.judge_fst r
  generalize f.judge r = judged at checks decided ⊢
  cases checks with
  | free untracked => simp [tracks, untracked]
  | first policy new => simp [last?_record, tracks_of_policy? policy, ← Except.ok.inj decided, Reading.value]
  | again policy held resends =>
    simp only [last?_record, last?_forget, tracks_of_policy? policy, ← Except.ok.inj decided, true_and]
    split <;> rfl
  | close policy held withheld =>
    rw [if_neg fun h => by simp [← Except.ok.inj decided] at h]
    rfl

/-- Whatever is decided on a reading whose plugin has a policy, something is held for its key afterwards. -/
theorem isSome_last?_judge (k : SeriesKey) :
    ((f.judge r).2.last? k).isSome ↔ (f.last? k).isSome ∨ f.tracks r.key.plugin ∧ r.key = k := by
  rw [last?_judge]
  split
  · rename_i h
    obtain ⟨tracked, -, rfl⟩ := h
    simp [tracked]
  · rename_i h
    constructor
    · exact .inl
    · rintro (held | ⟨tracked, rfl⟩)
      · exact held
      · -- a value is suppressed only because another one was sent before
        have suppressed : f.decision r ≠ .send := fun sent => h ⟨tracked, sent, rfl⟩
        unfold decision verdict at suppressed
        split at suppressed
        · exact absurd rfl suppressed
        · exact absurd rfl suppressed
        · rename_i held
          simp [held]

theorem size_record (key : SeriesKey) (text : String) (time : Nat) :
    (f.record key text time).size = if (f.last? key).isSome then f.size else f.size + 1 := by
  unfold record size last?
  rw [Std.TreeMap.size_insert, Std.TreeMap.contains_eq_isSome_getElem?]

/-- A value put in the place of another one. -/
theorem size_record_forget {key : SeriesKey} (held : (f.last? key).isSome) (text : String) (time : Nat) :
    ((f.forget key).record key text time).size = f.size := by
  have known : f.sent.contains key = true := by
    rw [Std.TreeMap.contains_eq_isSome_getElem?]
    exact held
  have some : f.sent.size ≠ 0 := by
    simpa [Std.TreeMap.isEmpty_eq_size_eq_zero] using Std.TreeMap.isEmpty_eq_false_of_contains known
  rw [size_record, last?_forget, if_pos rfl]
  unfold forget size
  rw [Std.TreeMap.size_erase, if_pos known]
  show f.sent.size - 1 + 1 = f.sent.size
  omega

theorem size_judge : (f.judge r).2.size =
    f.size + if f.tracks r.key.plugin ∧ (f.last? r.key).isNone then 1 else 0 := by
  have checks := f.judge_cases r
  generalize f.judge r = judged at checks ⊢
  cases checks with
  | free untracked => simp [tracks, untracked]
  | first policy new =>
    rw [size_record, new, if_neg (by simp), if_pos ⟨tracks_of_policy? policy, rfl⟩]
  | again policy held =>
    rw [held, if_neg (by simp), Nat.add_zero]
    exact f.size_record_forget (by rw [held]; rfl) _ _
  | close policy held =>
    rw [held, if_neg (by simp), Nat.add_zero]
    rfl

end ChangeFilter

/-! ### Records -/

/-- The decisions a filter has come to, oldest first, and what it holds after them. -/
structure Judged where
  record : List (Reading × Decision)
  filter : ChangeFilter

/-- The record with one more reading; a check that fails decides nothing. -/
def Judged.next (k : Judged) (r : Reading) : Judged :=
  match k.filter.judge r with
  | (.ok decision, filter) => ⟨k.record ++ [(r, decision)], filter⟩
  | (.error _, filter) => ⟨k.record, filter⟩

theorem Judged.next_eq (k : Judged) (r : Reading) :
    k.next r = ⟨k.record ++ [(r, k.filter.decision r)], (k.filter.judge r).2⟩ := by
  have decided := k.filter.judge_fst r
  unfold next
  generalize k.filter.judge r = judged at decided ⊢
  obtain ⟨_, filter⟩ := judged
  cases decided
  rfl

/-- The readings, one after the other, before a filter that holds nothing yet. -/
def judged (policies : List (String × Policy)) (rs : List Reading) : Judged :=
  rs.foldl Judged.next ⟨[], { policies }⟩

/-- `r` was sent under the key, and every later reading of the key was suppressed. -/
def LastSent (record : List (Reading × Decision)) (key : SeriesKey) (r : Reading) : Prop :=
  ∃ before after, record = before ++ (r, .send) :: after ∧ r.key = key ∧
    ∀ x ∈ after, x.1.key = key → x.2 = .suppress

theorem lastSent_concat (record : List (Reading × Decision)) (r : Reading) (d : Decision) (key : SeriesKey)
    (x : Reading) : LastSent (record ++ [(r, d)]) key x ↔
      if r.key = key ∧ d = .send then x = r else LastSent record key x := by
  constructor
  · rintro ⟨before, after, eq, hx, later⟩
    -- the reading sent last is the new one, or it stands before that
    rcases Course.entry_of_concat eq with ⟨rfl, same, rfl⟩ | ⟨after, rfl, rfl⟩
    · cases same
      rw [if_pos ⟨hx, rfl⟩]
    · have suppressed : ¬(r.key = key ∧ d = .send) := by
        rintro ⟨hr, rfl⟩
        cases later (r, .send) (by simp) hr
      rw [if_neg suppressed]
      exact ⟨before, after, rfl, hx, fun z hz => later z (by simp [hz])⟩
  · split
    · rintro rfl
      rename_i h
      obtain ⟨hr, rfl⟩ := h
      exact ⟨record, [], rfl, hr, fun z hz => by cases hz⟩
    · rename_i h
      rintro ⟨before, after, rfl, hx, later⟩
      refine ⟨before, after ++ [(r, d)], by simp, hx, fun z hz hk => ?_⟩
      rcases List.mem_append.1 hz with hz | hz
      · exact later z hz hk
      · cases List.mem_singleton.1 hz
        cases d with
        | send => exact absurd ⟨hk, rfl⟩ h
        | suppress => rfl

section

variable (policies : List (String × Policy)) (rs : List Reading)

theorem judged_concat (r : Reading) : judged policies (rs ++ [r]) =
    let k := judged policies rs
    ⟨k.record ++ [(r, k.filter.decision r)], (k.filter.judge r).2⟩ := by
  unfold judged
  rw [List.foldl_append, List.foldl_cons, List.foldl_nil, Judged.next_eq]

theorem policies_judged : (judged policies rs).filter.policies = policies := by
  induction rs using List.reverseRecOn with
  | nil => rfl
  | append_singleton rs r ih =>
    rw [judged_concat]
    exact (ChangeFilter.policies_judge _ r).trans ih

theorem policy?_judged (plugin : String) :
    (judged policies rs).filter.policy? plugin = ({ policies } : ChangeFilter).policy? plugin := by
  unfold ChangeFilter.policy?
  rw [policies_judged]

theorem tracks_judged (plugin : String) :
    (judged policies rs).filter.tracks plugin = ({ policies } : ChangeFilter).tracks plugin := by
  unfold ChangeFilter.tracks
  rw [policy?_judged]

/-- The readings of the record are those judged. -/
theorem map_record_judged : (judged policies rs).record.map Prod.fst = rs := by
  induction rs using List.reverseRecOn with
  | nil => rfl
  | append_singleton rs r ih =>
    rw [judged_concat]
    show ((judged policies rs).record ++ [_]).map Prod.fst = _
    rw [List.map_append, ih]
    rfl

/-- What the filter holds is the last reading that was sent, for the keys of plugins with a policy. -/
theorem last?_judged (key : SeriesKey) (v : SentValue) : (judged policies rs).filter.last? key = some v ↔
    ({ policies } : ChangeFilter).tracks key.plugin ∧
      ∃ r, LastSent (judged policies rs).record key r ∧ v = r.value := by
  induction rs using List.reverseRecOn with
  | nil =>
    constructor
    · intro h
      cases h
    · rintro ⟨-, r, ⟨before, after, eq, -⟩, -⟩
      simp [judged] at eq
  | append_singleton rs r ih =>
    rw [judged_concat]
    show ((judged policies rs).filter.judge r).2.last? key = some v ↔
      _ ∧ ∃ x, LastSent ((judged policies rs).record ++ [_]) key x ∧ _
    simp only [lastSent_concat]
    rw [ChangeFilter.last?_judge, tracks_judged]
    by_cases sent : r.key = key ∧ (judged policies rs).filter.decision r = .send
    · obtain ⟨rfl, sent⟩ := sent
      by_cases tracked : ({ policies } : ChangeFilter).tracks r.key.plugin = true
      · simp [tracked, sent, eq_comm]
      · rw [if_neg fun h => tracked h.1, ih]
        simp [tracked]
    · rw [if_neg fun h => sent ⟨h.2.2, h.2.1⟩, ih]
      simp only [if_neg sent]

theorem isSome_last?_judged (key : SeriesKey) : ((judged policies rs).filter.last? key).isSome ↔
    ({ policies } : ChangeFilter).tracks key.plugin ∧ key ∈ rs.map Reading.key := by
  induction rs using List.reverseRecOn with
  | nil => simp [judged, ChangeFilter.last?]
  | append_singleton rs r ih =>
    rw [judged_concat]
    show (((judged policies rs).filter.judge r).2.last? key).isSome ↔ _
    rw [ChangeFilter.isSome_last?_judge, ih, tracks_judged, List.map_append, List.mem_append]
    constructor
    · rintro (⟨tracked, mem⟩ | ⟨tracked, rfl⟩)
      · exact ⟨tracked, .inl mem⟩
      · exact ⟨tracked, .inr (by simp)⟩
    · rintro ⟨tracked, mem | mem⟩
      · exact .inl ⟨tracked, mem⟩
      · obtain rfl : key = r.key := by simpa using mem
        exact .inr ⟨tracked, rfl⟩

/-- The keys of plugins with a policy. -/
def enrolledKeys : Finset SeriesKey :=
  ((rs.map Reading.key).filter fun key => ({ policies } : ChangeFilter).tracks key.plugin).toFinset

theorem mem_enrolledKeys {key : SeriesKey} : key ∈ enrolledKeys policies rs ↔
    ({ policies } : ChangeFilter).tracks key.plugin ∧ key ∈ rs.map Reading.key := by
  simp only [enrolledKeys, List.mem_toFinset, List.mem_filter, and_comm]

theorem size_judged : (judged policies rs).filter.size = (enrolledKeys policies rs).card := by
  induction rs using List.reverseRecOn with
  | nil => rfl
  | append_singleton rs r ih =>
    rw [judged_concat]
    show ((judged policies rs).filter.judge r).2.size = _
    have held := isSome_last?_judged policies rs r.key
    have grown : enrolledKeys policies (rs ++ [r]) =
        if ({ policies } : ChangeFilter).tracks r.key.plugin then insert r.key (enrolledKeys policies rs)
        else enrolledKeys policies rs := by
      ext key
      split
      all_goals simp only [Finset.mem_insert, mem_enrolledKeys, List.map_append, List.mem_append, List.map_cons,
        List.map_nil, List.mem_singleton]
      · grind
      · grind
    rw [ChangeFilter.size_judge, ih, tracks_judged, grown]
    by_cases tracked : ({ policies } : ChangeFilter).tracks r.key.plugin = true
    · by_cases known : r.key ∈ rs.map Reading.key
      · have isHeld := held.2 ⟨tracked, known⟩
        rw [if_pos tracked, Finset.insert_eq_of_mem ((mem_enrolledKeys ..).2 ⟨tracked, known⟩),
          if_neg (by simp [Option.isSome_iff_ne_none.1 isHeld]), Nat.add_zero]
      · have notHeld : ¬((judged policies rs).filter.last? r.key).isSome := fun isHeld => known (held.1 isHeld).2
        rw [if_pos tracked, Finset.card_insert_of_notMem fun mem => known ((mem_enrolledKeys ..).1 mem).2,
          if_pos ⟨tracked, by simpa using notHeld⟩]
    · rw [if_neg tracked, if_neg fun h => tracked h.1, Nat.add_zero]

theorem suppressed_judged :
    (judged policies rs).filter.suppressed = (judged policies rs).record.countP fun x => x.2 = .suppress := by
  induction rs using List.reverseRecOn with
  | nil => rfl
  | append_singleton rs r ih =>
    rw [judged_concat]
    show ((judged policies rs).filter.judge r).2.suppressed =
      List.countP (fun x => x.2 = .suppress) ((judged policies rs).record ++ [_])
    rw [ChangeFilter.suppressed_judge, ih, List.countP_append]
    congr 1
    cases (judged policies rs).filter.decision r <;> rfl

/-- With the readings of other keys left out, the filter holds the same for this key and decides the same. -/
theorem judged_filter_key (key : SeriesKey) :
    let own := judged policies (rs.filter fun r => r.key = key)
    own.record = (judged policies rs).record.filter (fun x => x.1.key = key) ∧
      own.filter.last? key = (judged policies rs).filter.last? key := by
  induction rs using List.reverseRecOn with
  | nil => exact ⟨rfl, rfl⟩
  | append_singleton rs r ih =>
    obtain ⟨record, last⟩ := ih
    rw [judged_concat, List.filter_append]
    by_cases hr : r.key = key
    · have own : [r].filter (fun r => decide (r.key = key)) = [r] := by simp [hr]
      have same : (judged policies (rs.filter fun r => r.key = key)).filter.decision r =
          (judged policies rs).filter.decision r := by
        unfold ChangeFilter.decision
        rw [policy?_judged, policy?_judged, hr, last]
      rw [own, judged_concat]
      constructor
      · show (judged policies _).record ++ [_] = ((judged policies rs).record ++ [_]).filter _
        rw [List.filter_append, record, same]
        simp [hr]
      · show ((judged policies _).filter.judge r).2.last? key = ((judged policies rs).filter.judge r).2.last? key
        rw [ChangeFilter.last?_judge, ChangeFilter.last?_judge, tracks_judged, tracks_judged, same, last]
    · have other : [r].filter (fun r => decide (r.key = key)) = [] := by simp [hr]
      rw [other, List.append_nil]
      constructor
      · show _ = ((judged policies rs).record ++ [_]).filter _
        rw [List.filter_append, record]
        simp [hr]
      · show _ = ((judged policies rs).filter.judge r).2.last? key
        rw [ChangeFilter.last?_judge, if_neg fun h => hr h.2.2, last]

/-- A reading is suppressed exactly if it is close to the last one sent and soon after it. -/
theorem suppress_iff {r last : Reading} {p : Policy}
    (policy : ({ policies } : ChangeFilter).policy? r.key.plugin = some p)
    (lastSent : LastSent (judged policies rs).record r.key last) :
    ((judged policies rs).filter.check r.key r.text r.time).1 = .ok .suppress ↔ p.Withholds last r := by
  have tracked := ChangeFilter.tracks_of_policy? policy
  have held := (last?_judged policies rs r.key last.value).2 ⟨tracked, last, lastSent, rfl⟩
  have decided := (judged policies rs).filter.judge_fst r
  unfold ChangeFilter.decision at decided
  rw [policy?_judged, policy, held] at decided
  change ((judged policies rs).filter.check r.key r.text r.time).1 =
    .ok (if p.resends last.value r.text r.time then .send else .suppress) at decided
  rw [decided, ← p.resends_eq_false_iff]
  cases p.resends last.value r.text r.time <;> simp

/-- What is decided on the next reading, told by the readings and decisions before it. -/
theorem decision_of_history (r : Reading) :
    let k := judged policies rs
    let checked := (k.filter.check r.key r.text r.time).1
    (∃ decision, checked = .ok decision) ∧
    (({ policies } : ChangeFilter).policy? r.key.plugin = none → checked = .ok .send) ∧
    (r.key ∉ rs.map Reading.key → checked = .ok .send) ∧
    ∀ p, ({ policies } : ChangeFilter).policy? r.key.plugin = some p → r.key ∈ rs.map Reading.key →
      ∃ last, LastSent k.record r.key last ∧ (checked = .ok .suppress ↔ p.Withholds last r) := by
  intro k checked
  have eq : checked = .ok (ChangeFilter.verdict (({ policies } : ChangeFilter).policy? r.key.plugin)
      (k.filter.last? r.key) r) := by
    rw [← policy?_judged policies rs]
    exact k.filter.judge_fst r
  refine ⟨⟨_, eq⟩, fun free => ?_, fun unknown => ?_, fun p hp known => ?_⟩
  · rw [eq, free]
    rfl
  · have notHeld : k.filter.last? r.key = none := by
      rw [← Option.not_isSome_iff_eq_none, isSome_last?_judged]
      exact fun h => unknown h.2
    rw [eq, notHeld]
    cases ({ policies } : ChangeFilter).policy? r.key.plugin <;> rfl
  · have tracked := ChangeFilter.tracks_of_policy? hp
    obtain ⟨v, held⟩ := Option.isSome_iff_exists.1 ((isSome_last?_judged policies rs r.key).2 ⟨tracked, known⟩)
    obtain ⟨-, last, lastSent, -⟩ := (last?_judged policies rs r.key v).1 held
    exact ⟨last, lastSent, suppress_iff policies rs hp lastSent⟩

/-- A filter that starts empty is a function of its history.  No check fails.  A reading is sent if its plugin has no
policy or its key is new; otherwise it is suppressed exactly if it is close to the last reading of its key that was
sent, and soon after it.  Afterwards the filter holds the last reading sent under each key of a plugin with a policy,
and nothing else; it has counted these keys and the suppressed readings; and the readings of one key are judged as if
there were no others. -/
theorem decided_by_history :
    let f : ChangeFilter := { policies }
    let k := judged policies rs
    k.record.map Prod.fst = rs ∧
    (∀ r, let checked := (k.filter.check r.key r.text r.time).1
      (∃ decision, checked = .ok decision) ∧
      (f.policy? r.key.plugin = none → checked = .ok .send) ∧
      (r.key ∉ rs.map Reading.key → checked = .ok .send) ∧
      ∀ p, f.policy? r.key.plugin = some p → r.key ∈ rs.map Reading.key →
        ∃ last, LastSent k.record r.key last ∧ (checked = .ok .suppress ↔ p.Withholds last r)) ∧
    (∀ key v, k.filter.last? key = some v ↔
      f.tracks key.plugin ∧ ∃ r, LastSent k.record key r ∧ v = r.value) ∧
    k.filter.size = (enrolledKeys policies rs).card ∧
    k.filter.suppressed = k.record.countP (fun x => x.2 = .suppress) ∧
    ∀ key, (judged policies (rs.filter fun r => r.key = key)).record = k.record.filter fun x => x.1.key = key :=
  ⟨map_record_judged policies rs, decision_of_history policies rs, last?_judged policies rs, size_judged policies rs,
    suppressed_judged policies rs, fun key => (judged_filter_key policies rs key).1⟩

/-- A value that drifts is compared with the one that was sent, not with the one suppressed since. -/
theorem decided_by_history_drift :
    let idle : SeriesKey := ⟨"cpu", "0", "percent", "idle"⟩
    let policies : List (String × Policy) := [("cpu", ⟨60, 5⟩)]
    let rs : List Reading := [⟨idle, "50", 0⟩, ⟨⟨"cpu", "1", "percent", "idle"⟩, "9", 5⟩, ⟨idle, "52", 10000⟩]
    let k := judged policies rs
    ({ policies } : ChangeFilter).policy? "cpu" = some ⟨60, 5⟩ ∧ idle ∈ rs.map Reading.key ∧
      ∃ last, LastSent k.record idle last ∧
        ((k.filter.check idle "54" 20000).1 = .ok .suppress ↔ (⟨60, 5⟩ : Policy).Withholds last ⟨idle, "54", 20000⟩) :=
  have known : _ ∈ _ := by decide
  ⟨rfl, known, ((decided_by_history [("cpu", ⟨60, 5⟩)] _).2.1 ⟨_, "54", 20000⟩).2.2.2 _ rfl known⟩

end

example :
    let idle : SeriesKey := ⟨"cpu", "0", "percent", "idle"⟩
    let rs : List Reading := [⟨idle, "50", 0⟩, ⟨idle, "52", 10000⟩, ⟨idle, "54", 20000⟩]
    (judged [("cpu", ⟨60, 5⟩)] rs).record.map Prod.snd = [.send, .suppress, .send] := by decide

end MetricFeed
