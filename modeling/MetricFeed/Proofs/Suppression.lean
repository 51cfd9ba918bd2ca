import MetricFeed.Proofs.Doubles
import MetricFeed.Proofs.Enrolment
import MetricFeed.Proofs.FilterHistory

/-!
# What valid policies suppress

A threshold that settings may have is finite and not negative.  Under such a threshold a reading that is suppressed lies
within so many percent of the last one sent, if both are finite (`suppressed_within`); a reading that is not a number is
close to every other one, as every reading is close to it, and every reading is close to the infinity above zero.  An
unchanged reading is suppressed unless so many percent of it are below zero (`repeated_suppressed_iff`): the percentage
is taken of the signed value.
-/

namespace MetricFeed

/-! ### Valid policies -/

namespace Settings

/-- The policy of a plugin under valid settings has a finite threshold that is not negative. -/
theorem isValid_of_policy? {s : Settings} (valid : s.validate = .ok ()) {plugin : String} {p : Policy}
    (h : s.filter.policy? plugin = some p) : p.threshold.isFinite = true ∧ ¬p.threshold < 0 := by
  have acceptable := s.validate_eq_ok_iff.1 valid
  obtain ⟨q, mem, -, rfl⟩ := (policy?_eq_some_iff acceptable.distinct plugin p).1 h
  exact ⟨(acceptable.policies q mem).finite, (acceptable.policies q mem).least⟩

end Settings

/-! ### The last reading sent -/

section

variable (policies : List (String × Policy)) (rs : List Reading) {r : Reading}

/-- What was decided stands in the record, whatever is judged later. -/
theorem record_judged_append (r : Reading) (others : List Reading) : ∃ later,
    (judged policies (rs ++ r :: others)).record =
      (judged policies rs).record ++ (r, (judged policies rs).filter.decision r) :: later ∧
    later.map Prod.fst = others := by
  induction others using List.reverseRecOn with
  | nil => exact ⟨[], by rw [judged_concat], rfl⟩
  | append_singleton others x ih =>
    obtain ⟨later, record, readings⟩ := ih
    rw [← List.cons_append, ← List.append_assoc, judged_concat]
    let k := judged policies (rs ++ r :: others)
    refine ⟨later ++ [(x, k.filter.decision x)], ?_, ?_⟩
    · show k.record ++ [_] = _
      rw [record, List.append_assoc, List.cons_append]
    · rw [List.map_append, readings]
      rfl

/-- Readings of other keys leave the last one sent in its place. -/
theorem lastSent_append {others : List Reading} (sent : ((judged policies rs).filter.judge r).1 = .ok .send)
    (apart : ∀ x ∈ others, x.key ≠ r.key) :
    LastSent (judged policies (rs ++ r :: others)).record r.key r := by
  obtain ⟨later, record, readings⟩ := record_judged_append policies rs r others
  rw [Except.ok.inj (((judged policies rs).filter.judge_fst r).symm.trans sent)] at record
  refine ⟨_, later, record, rfl, fun x hx same => absurd same (apart x.1 ?_)⟩
  rw [← readings]
  exact List.mem_map_of_mem hx

end

/-! ### What is suppressed -/

/-- A reading is sent, readings of other keys follow, and the same text comes again within the interval.  It is
suppressed exactly if so many percent of its value are not below zero; they are not if the value is not. -/
theorem repeated_suppressed_iff (s : Settings) (valid : s.validate = .ok ()) (rs : List Reading) (r : Reading)
    (others : List Reading) (time : Nat) {p : Policy}
    (policy : s.filter.policy? r.key.plugin = some p) (finite : (readValue r.text).isFinite = true)
    (sent : ((judged s.filter.policies rs).filter.check r.key r.text r.time).1 = .ok .send)
    (apart : ∀ x ∈ others, x.key ≠ r.key) (after : r.time ≤ time) (soon : time ≤ r.time + p.interval * 1000)
    (bounded : time ≤ maxInterval) :
    let k := judged s.filter.policies (rs ++ r :: others)
    let checked := (k.filter.check r.key r.text time).1
    (checked = .ok .suppress ↔ ¬p.threshold * readValue r.text / 100 < 0) ∧
      (¬readValue r.text < 0 → checked = .ok .suppress) := by
  intro k checked
  have lastSent := lastSent_append s.filter.policies rs sent apart
  have suppressed : checked = .ok .suppress ↔ ¬p.threshold * readValue r.text / 100 < 0 := by
    apply Iff.trans (suppress_iff s.filter.policies _ (r := ⟨r.key, r.text, time⟩) policy lastSent)
    unfold Policy.Withholds
    dsimp only
    -- the reading does not differ from itself, so only the sign of the threshold counts
    rw [Number.abs_sub_self finite, and_iff_right]
    omega
  refine ⟨suppressed, fun notNegative => suppressed.2 ?_⟩
  obtain ⟨threshold, least⟩ := s.isValid_of_policy? valid policy
  exact Number.percent_not_neg threshold least finite notNegative

theorem repeated_suppressed_iff_positive :
    let s : Settings := { policies := [⟨"cpu", ⟨60, 5⟩⟩] }
    let idle : SeriesKey := ⟨"cpu", "0", "percent", "idle"⟩
    let busy : Reading := ⟨⟨"cpu", "0", "percent", "user"⟩, "7", 10⟩
    ((judged s.filter.policies ([] ++ ⟨idle, "50", 0⟩ :: [busy])).filter.check idle "50" 60000).1 = .ok .suppress := by
  have valid : Settings.validate { policies := [⟨"cpu", ⟨60, 5⟩⟩] } = .ok () := rfl
  intro s idle busy
  have decided := repeated_suppressed_iff s valid [] ⟨idle, "50", 0⟩ [busy] 60000 (p := ⟨60, 5⟩) rfl (by decide) rfl
    (by decide) (by decide) (by decide) (by decide)
  exact decided.2 (by decide)

/-- Below zero, an unchanged value is sent again and again. -/
theorem repeated_below_zero :
    let s : Settings := { policies := [⟨"cpu", ⟨60, 5⟩⟩] }
    let idle : SeriesKey := ⟨"cpu", "0", "percent", "idle"⟩
    let k := judged s.filter.policies [⟨idle, "-50", 0⟩]
    s.validate = .ok () ∧ (readValue "-50").isFinite = true ∧ k.record.map Prod.snd = [.send] ∧
      (k.filter.check idle "-50" 1000).1 = .ok .send :=
  ⟨rfl, by decide, rfl, rfl⟩

/-- A finite reading that is suppressed differs from the last one sent, if that is finite too, by at most so many
percent of its size.  Within the interval every reading is suppressed that is not a number, or follows one that is
not; a reading after an infinity is suppressed unless the infinity is below zero, the threshold above zero and the
reading above the infinity; and an infinity after a finite reading is suppressed only if so many percent of that are
infinite too, and above zero. -/
theorem suppressed_within (s : Settings) (valid : s.validate = .ok ()) (rs : List Reading) (r : Reading) :
    let k := judged s.filter.policies rs
    let checked := (k.filter.check r.key r.text r.time).1
    (checked = .ok .suppress → ∃ p last, s.filter.policy? r.key.plugin = some p ∧ LastSent k.record r.key last ∧
      ((readValue last.text).isFinite = true → (readValue r.text).isFinite = true →
        (readValue r.text - readValue last.text).abs ≤ p.threshold * (readValue last.text).abs / 100)) ∧
    ∀ p last, s.filter.policy? r.key.plugin = some p → LastSent k.record r.key last →
      r.time - last.time ≤ min (p.interval * 1000) maxInterval →
      let old := readValue last.text
      let new := readValue r.text
      let share := p.threshold * old / 100
      (old.isNaN = true ∨ new.isNaN = true → checked = .ok .suppress) ∧
      (old.isInf = true → (checked = .ok .suppress ↔ 0 < old ∨ ¬0 < p.threshold ∨ ¬old < new)) ∧
      (old.isFinite = true → new.isInf = true → (checked = .ok .suppress ↔ share.isInf = true ∧ 0 < share)) := by
  intro k checked
  constructor
  · intro suppressed
    -- a reading is suppressed only under a policy, and after another one of its key
    obtain ⟨-, free, new, compared⟩ := decision_of_history s.filter.policies rs r
    cases policy : s.filter.policy? r.key.plugin with
    | none => cases suppressed.symm.trans (free policy)
    | some p =>
      by_cases known : r.key ∈ rs.map Reading.key
      · obtain ⟨last, lastSent, suppressed_iff⟩ := compared p policy known
        refine ⟨p, last, rfl, lastSent, fun finiteLast finite => ?_⟩
        obtain ⟨threshold, least⟩ := s.isValid_of_policy? valid policy
        obtain ⟨sign, signed⟩ := Number.isSome_sign?_sub finite finiteLast
        exact Number.le_percent_abs threshold least finiteLast (Number.sign?_abs signed)
          (suppressed_iff.1 suppressed).2
      · cases suppressed.symm.trans (new known)
  · intro p last policy lastSent soon old new share
    obtain ⟨threshold, least⟩ := s.isValid_of_policy? valid policy
    -- within the interval, only the comparison of the distance with the share decides
    have suppressed_iff : checked = .ok .suppress ↔ ¬share < (new - old).abs := by
      apply Iff.trans (suppress_iff s.filter.policies rs policy lastSent)
      exact and_iff_right (by omega)
    refine ⟨fun notNumber => ?_, fun infinite => ?_, fun finite infinite => ?_⟩
    · exact suppressed_iff.2 (Number.not_lt_abs_sub notNumber.symm _)
    · exact suppressed_iff.trans (Number.not_percent_lt_of_isInf threshold least infinite)
    · exact suppressed_iff.trans (Number.not_percent_lt_abs_sub_of_isInf threshold finite infinite)

theorem suppressed_within_drift :
    let s : Settings := { policies := [⟨"cpu", ⟨60, 5⟩⟩] }
    let idle : SeriesKey := ⟨"cpu", "0", "percent", "idle"⟩
    let k := judged s.filter.policies [⟨idle, "50", 0⟩]
    s.validate = .ok () ∧ ∃ p last, s.filter.policy? "cpu" = some p ∧ LastSent k.record idle last ∧
      ((readValue last.text).isFinite = true → (readValue "52").isFinite = true →
        (readValue "52" - readValue last.text).abs ≤ p.threshold * (readValue last.text).abs / 100) := by
  have valid : Settings.validate { policies := [⟨"cpu", ⟨60, 5⟩⟩] } = .ok () := rfl
  intro s idle k
  have suppressed : (k.filter.check idle "52" 10000).1 = .ok .suppress := by
    refine (k.filter.judge_fst ⟨idle, "52", 10000⟩).trans (congrArg Except.ok ?_)
    decide
  exact ⟨valid, (suppressed_within s valid [⟨idle, "50", 0⟩] ⟨idle, "52", 10000⟩).1 suppressed⟩

example :
    let idle : SeriesKey := ⟨"cpu", "0", "percent", "idle"⟩
    let k := judged [("cpu", ⟨60, 5⟩)] [⟨idle, "inf", 0⟩]
    (k.filter.check idle "5" 1000).1 = .ok .suppress := rfl

/-- After a value that is not a number, any change is withheld. -/
theorem suppressed_after_nan :
    let s : Settings := { policies := [⟨"cpu", ⟨60, 5⟩⟩] }
    let idle : SeriesKey := ⟨"cpu", "0", "percent", "idle"⟩
    let k := judged s.filter.policies [⟨idle, "nan", 0⟩]
    s.validate = .ok () ∧ k.filter.last? idle = some ⟨"nan", 0⟩ ∧ (k.filter.check idle "5" 1000).1 = .ok .suppress ∧
      (readValue "nan").isFinite = false :=
  ⟨rfl, by decide, rfl, by decide⟩

end MetricFeed
