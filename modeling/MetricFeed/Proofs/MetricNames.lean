import MetricFeed.Series
import MetricFeed.Text.Split
import Mathlib.Data.List.Induction
import Mathlib.Data.List.TakeWhile

/-!
# What metric names are made of

The segments of a name are its front without the dots at the end, and the parts, the empty ones left out; if they fit,
the name is their join (`MetricName.push_join`, `MetricName.build_of_fits`).  If not, the first segment at fault decides
the error (`MetricName.build_of_firstFault`).  A builder that counts bytes and changes its name in place comes to the
same as `MetricName.push`, and forgets a segment that fails (`Builder.pushAll_forgets`); and the name that a pattern
spells is built from the texts of its parts (`Observation.metricName_eq_build`).
-/

namespace MetricFeed

namespace MetricName

variable {limit : Nat} {segs : List String}

/-- All the dots at the end are taken off, and nothing else. -/
theorem trimDots_toList (front : String) :
    (∃ n, front.toList = (trimDots front).toList ++ List.replicate n '.') ∧
      (trimDots front).toList.getLast? ≠ some '.' := by
  unfold trimDots
  rw [String.toList_ofList]
  exact ⟨Text.exists_dropEnd '.' front.toList, Text.getLast?_dropEnd '.' front.toList⟩

/-! ### Segments -/

/-- The texts that stand between the dots. -/
def segments (front : String) (parts : List String) : List String :=
  (trimDots front :: parts).filter fun s => !s.isEmpty

def join (segs : List String) : String :=
  ".".intercalate segs

/-- What is wrong with a segment after others. -/
def fault? (limit : Nat) (before : List String) (s : String) : Option NameError :=
  if '\x00' ∈ s.toList then some .nul
  else if limit < (join (before ++ [s])).utf8ByteSize then some (.tooLong limit)
  else none

/-- No segment is at fault. -/
def Fits (limit : Nat) (segs : List String) : Prop :=
  ∀ before s after, segs = before ++ s :: after → fault? limit before s = none

/-- The first segment at fault has this error. -/
def FirstFault (limit : Nat) (segs : List String) (e : NameError) : Prop :=
  ∃ before s after, segs = before ++ s :: after ∧ Fits limit before ∧ fault? limit before s = some e

theorem segments_ne_empty {front : String} {parts : List String} : ∀ s ∈ segments front parts, s ≠ "" := by
  intro s hs
  simpa using (List.mem_filter.1 hs).2

theorem join_concat {before : List String} (others : before ≠ []) (s : String) :
    join (before ++ [s]) = join before ++ "." ++ s := by
  unfold join
  rw [String.intercalate_append_of_ne_nil others (List.cons_ne_nil s []), String.intercalate_singleton]

theorem join_eq_empty_iff (clean : ∀ s ∈ segs, s ≠ "") : join segs = "" ↔ segs = [] := by
  rcases List.eq_nil_or_concat segs with rfl | ⟨before, s, rfl⟩
  · simp [join]
  · rw [List.concat_eq_append] at clean ⊢
    have last : s ≠ "" := clean s (by simp)
    by_cases alone : before = []
    · subst alone
      simpa [join] using last
    · rw [join_concat alone]
      simp [String.append_eq_empty_iff]

theorem size_join_le (before after : List String) :
    (join before).utf8ByteSize ≤ (join (before ++ after)).utf8ByteSize := by
  by_cases first : before = []
  · subst first
    simp [join]
  · by_cases last : after = []
    · exact Nat.le_of_eq (by rw [last, List.append_nil])
    · unfold join
      rw [String.intercalate_append_of_ne_nil first last, String.utf8ByteSize_append, String.utf8ByteSize_append]
      omega

theorem nul_not_mem_join (clean : ∀ s ∈ segs, '\x00' ∉ s.toList) : '\x00' ∉ (join segs).toList := by
  induction segs using List.reverseRecOn with
  | nil => simp [join]
  | append_singleton before s ih =>
    have last : '\x00' ∉ s.toList := clean s (by simp)
    have others : '\x00' ∉ (join before).toList := ih fun t ht => clean t (List.mem_append_left _ ht)
    by_cases alone : before = []
    · subst alone
      simpa [join] using last
    · rw [join_concat alone]
      simp [String.toList_append, others, last]

/-! ### Segments that fit -/

theorem fault?_eq_none_iff {before : List String} {s : String} :
    fault? limit before s = none ↔ '\x00' ∉ s.toList ∧ (join (before ++ [s])).utf8ByteSize ≤ limit := by
  unfold fault?
  by_cases nul : '\x00' ∈ s.toList
  · simp [nul]
  · simp [nul]

theorem fits_iff : Fits limit segs ↔ (∀ s ∈ segs, '\x00' ∉ s.toList) ∧ (join segs).utf8ByteSize ≤ limit := by
  constructor
  · intro fits
    constructor
    · intro s hs
      obtain ⟨before, after, split⟩ := List.append_of_mem hs
      exact (fault?_eq_none_iff.1 (fits before s after split)).1
    · rcases List.eq_nil_or_concat segs with rfl | ⟨before, s, rfl⟩
      · simp [join]
      · rw [List.concat_eq_append] at fits ⊢
        exact (fault?_eq_none_iff.1 (fits before s [] rfl)).2
  · rintro ⟨clean, short⟩ before s after rfl
    have shorter : (join (before ++ [s])).utf8ByteSize ≤ (join (before ++ s :: after)).utf8ByteSize := by
      have le := size_join_le (before ++ [s]) after
      rwa [List.append_assoc, List.singleton_append] at le
    exact fault?_eq_none_iff.2 ⟨clean s (by simp), by omega⟩

theorem Fits.front {before after : List String} (fits : Fits limit (before ++ after)) : Fits limit before := by
  rintro earlier s later rfl
  exact fits earlier s (later ++ after) (by simp)

theorem fits_nil (limit : Nat) : Fits limit [] :=
  fun _ _ _ split => absurd split (by simp)

/-- Segments that fit are followed by one that fits too, or by the first at fault. -/
theorem fits_or_firstFault (limit : Nat) (segs : List String) : Fits limit segs ∨ ∃ e, FirstFault limit segs e := by
  induction segs using List.reverseRecOn with
  | nil => exact .inl (fits_nil limit)
  | append_singleton before s ih =>
    rcases ih with fits | ⟨e, earlier, t, later, rfl, fits, fault⟩
    · cases fault : fault? limit before s with
      | some e => exact .inr ⟨e, before, s, [], rfl, fits, fault⟩
      | none =>
        obtain ⟨last, short⟩ := fault?_eq_none_iff.1 fault
        refine .inl (fits_iff.2 ⟨fun t ht => ?_, short⟩)
        rcases List.mem_append.1 ht with ht | ht
        · exact (fits_iff.1 fits).1 t ht
        · rw [List.mem_singleton.1 ht]
          exact last
    · exact .inr ⟨e, earlier, t, later ++ [s], by simp, fits, fault⟩

/-! ### Building -/

/-- The name made so far, and one more segment. -/
theorem push_join {before : List String} {s : String} (clean : ∀ t ∈ before, t ≠ "") (nonempty : s ≠ "") :
    push limit (join before) s =
      match fault? limit before s with
      | some e => .error e
      | none => .ok (join (before ++ [s])) := by
  have joined : (if (join before).isEmpty then s else join before ++ "." ++ s) = join (before ++ [s]) := by
    by_cases alone : before = []
    · subst alone
      simp [join]
    · have some : ¬(join before).isEmpty := by
        rw [String.isEmpty_iff, join_eq_empty_iff clean]
        exact alone
      rw [if_neg some, join_concat alone]
  unfold push fault?
  rw [if_neg (by simpa using nonempty)]
  dsimp only
  rw [joined]
  by_cases nul : '\x00' ∈ s.toList
  · simp [nul]
  · by_cases long : limit < (join (before ++ [s])).utf8ByteSize
    · simp [nul, long]
    · simp [nul, long]

theorem foldlM_push_of_fits (clean : ∀ s ∈ segs, s ≠ "") (fits : Fits limit segs) :
    segs.foldlM (push limit) "" = .ok (join segs) := by
  induction segs using List.reverseRecOn with
  | nil => rfl
  | append_singleton before s ih =>
    have others : ∀ t ∈ before, t ≠ "" := fun t ht => clean t (List.mem_append_left _ ht)
    have fault : fault? limit before s = none := fits before s [] rfl
    rw [List.foldlM_append, ih others fits.front]
    show List.foldlM (push limit) (join before) [s] = _
    rw [List.foldlM_cons, push_join others (clean s (by simp)), fault]
    rfl

theorem foldlM_push_of_firstFault (clean : ∀ s ∈ segs, s ≠ "") {e : NameError} (fails : FirstFault limit segs e) :
    segs.foldlM (push limit) "" = .error e := by
  obtain ⟨before, s, after, rfl, fits, fault⟩ := fails
  have others : ∀ t ∈ before, t ≠ "" := fun t ht => clean t (List.mem_append_left _ ht)
  rw [List.foldlM_append, foldlM_push_of_fits others fits]
  show List.foldlM (push limit) (join before) (s :: after) = _
  rw [List.foldlM_cons, push_join others (clean s (by simp)), fault]
  rfl

/-- Empty texts add nothing. -/
theorem foldlM_push_filter (name : String) (texts : List String) :
    (texts.filter fun s => !s.isEmpty).foldlM (push limit) name = texts.foldlM (push limit) name := by
  rw [List.foldlM_filter]
  congr 1
  funext name s
  by_cases empty : s = ""
  · rw [empty, push_empty]
    rfl
  · rw [if_pos (by simpa using empty)]

theorem build_eq (limit : Nat) (front : String) (parts : List String) :
    build limit front parts = (segments front parts).foldlM (push limit) "" >>= finish := by
  unfold segments
  rw [foldlM_push_filter, List.foldlM_cons]
  exact (bind_assoc _ _ _).symm

theorem build_of_fits {front : String} {parts : List String} (fits : Fits limit (segments front parts)) :
    build limit front parts =
      if segments front parts = [] then .error .empty else .ok (join (segments front parts)) := by
  have whole : build limit front parts = finish (join (segments front parts)) := by
    rw [build_eq, foldlM_push_of_fits segments_ne_empty fits]
    exact pure_bind _ finish
  rw [whole]
  unfold finish
  simp only [String.isEmpty_iff, join_eq_empty_iff segments_ne_empty]

theorem build_of_firstFault {front : String} {parts : List String} {e : NameError}
    (fails : FirstFault limit (segments front parts) e) : build limit front parts = .error e := by
  rw [build_eq, foldlM_push_of_firstFault segments_ne_empty fails]
  rfl

theorem build_eq_ok_iff {front : String} {parts : List String} {name : String} :
    build limit front parts = .ok name ↔
      segments front parts ≠ [] ∧ (∀ s ∈ segments front parts, '\x00' ∉ s.toList) ∧
        (join (segments front parts)).utf8ByteSize ≤ limit ∧ name = join (segments front parts) := by
  rcases fits_or_firstFault limit (segments front parts) with fits | ⟨e, fails⟩
  · obtain ⟨clean, short⟩ := fits_iff.1 fits
    rw [build_of_fits fits]
    by_cases none : segments front parts = []
    · simp [none]
    · rw [if_neg none, Except.ok.injEq]
      exact ⟨fun same => ⟨none, clean, short, same.symm⟩, fun ⟨_, _, _, same⟩ => same.symm⟩
  · rw [build_of_firstFault fails]
    refine ⟨nofun, fun ⟨_, clean, short, _⟩ => ?_⟩
    obtain ⟨before, s, after, split, -, fault⟩ := fails
    exact absurd ((fits_iff.2 ⟨clean, short⟩ before s after split).symm.trans fault) nofun

theorem build_eq_error_iff {front : String} {parts : List String} {e : NameError} :
    build limit front parts = .error e ↔
      FirstFault limit (segments front parts) e ∨ segments front parts = [] ∧ e = .empty := by
  constructor
  · intro failed
    rcases fits_or_firstFault limit (segments front parts) with fits | ⟨e', fails⟩
    · rw [build_of_fits fits] at failed
      by_cases none : segments front parts = []
      · rw [if_pos none] at failed
        exact .inr ⟨none, (Except.error.inj failed).symm⟩
      · rw [if_neg none] at failed
        cases failed
    · rw [build_of_firstFault fails] at failed
      rw [← Except.error.inj failed]
      exact .inl fails
  · rintro (fails | ⟨none, rfl⟩)
    · exact build_of_firstFault fails
    · have fits : Fits limit (segments front parts) := by
        rw [none]
        exact fits_nil limit
      rw [build_of_fits fits, if_pos none]

/-! ### A builder -/

/-- A name in the making, and the most bytes it may have. -/
structure Builder where
  name : String
  limit : Nat

namespace Builder

/-- One more segment: first the bytes are counted, then the dot and the segment are put at the end of the name. -/
def push (b : Builder) (s : String) : Except NameError Unit × Builder :=
  if s.isEmpty then (.ok (), b)
  else if s.toList.contains '\x00' then (.error .nul, b)
  else
    let separator := if b.name.isEmpty then 0 else 1
    if b.limit < b.name.utf8ByteSize + separator + s.utf8ByteSize then (.error (.tooLong b.limit), b)
    else
      let dotted := if separator = 1 then { b with name := b.name ++ "." } else b
      (.ok (), { dotted with name := dotted.name ++ s })

/-- Every segment is pushed, whatever became of those before. -/
def pushAll (b : Builder) : List String → List (Except NameError Unit) × Builder
  | [] => ([], b)
  | s :: rest =>
    let pushed := b.push s
    let others := pushed.2.pushAll rest
    (pushed.1 :: others.1, others.2)

theorem pushAll_cons (b : Builder) (s : String) (rest : List String) :
    b.pushAll (s :: rest) =
      ((b.push s).1 :: ((b.push s).2.pushAll rest).1, ((b.push s).2.pushAll rest).2) :=
  rfl

/-- A push on a builder is `MetricName.push`, and the name stays where that fails. -/
theorem push_eq (b : Builder) (s : String) :
    b.push s =
      match MetricName.push b.limit b.name s with
      | .ok name => (.ok (), { b with name })
      | .error e => (.error e, b) := by
  have size : (if b.name.isEmpty then s else b.name ++ "." ++ s).utf8ByteSize =
      b.name.utf8ByteSize + (if b.name.isEmpty then 0 else 1) + s.utf8ByteSize := by
    by_cases first : b.name.isEmpty
    · simp [String.isEmpty_iff.1 first]
    · rw [if_neg first, if_neg first, String.utf8ByteSize_append, String.utf8ByteSize_append]
      rfl
  unfold push MetricName.push
  by_cases empty : s.isEmpty
  · rw [if_pos empty, if_pos empty]
  · rw [if_neg empty, if_neg empty]
    by_cases nul : s.toList.contains '\x00'
    · rw [if_pos nul, if_pos nul]
    · rw [if_neg nul, if_neg nul]
      dsimp only
      rw [size]
      by_cases long : b.limit < b.name.utf8ByteSize + (if b.name.isEmpty then 0 else 1) + s.utf8ByteSize
      · rw [if_pos long, if_pos long]
      · rw [if_neg long, if_neg long]
        by_cases first : b.name.isEmpty
        · simp [String.isEmpty_iff.1 first]
        · simp [first]

/-- A segment that fails changes nothing. -/
theorem push_failed {b : Builder} {s : String} {e : NameError} (failed : (b.push s).1 = .error e) :
    b.push s = (.error e, b) := by
  rw [push_eq] at failed ⊢
  split
  · rename_i name joined
    rw [joined] at failed
    cases failed
  · rename_i e' refused
    rw [refused] at failed
    rw [Except.error.inj failed]

theorem pushAll_append (b : Builder) (before after : List String) :
    b.pushAll (before ++ after) =
      ((b.pushAll before).1 ++ ((b.pushAll before).2.pushAll after).1, ((b.pushAll before).2.pushAll after).2) := by
  induction before generalizing b with
  | nil => rfl
  | cons s rest ih =>
    rw [List.cons_append, pushAll_cons, pushAll_cons, ih]
    rfl

theorem length_pushAll (b : Builder) (texts : List String) : (b.pushAll texts).1.length = texts.length := by
  induction texts generalizing b with
  | nil => rfl
  | cons s rest ih => exact congrArg Nat.succ (ih _)

/-- Without a segment that fails, the others end in the same way. -/
theorem pushAll_forgets {b : Builder} {before : List String} {s : String} {e : NameError}
    (failed : ((b.pushAll before).2.push s).1 = .error e) (after : List String) :
    ∃ earlier later final, earlier.length = before.length ∧ b.pushAll (before ++ after) = (earlier ++ later, final) ∧
      b.pushAll (before ++ s :: after) = (earlier ++ .error e :: later, final) := by
  refine ⟨_, _, _, b.length_pushAll before, b.pushAll_append before after, ?_⟩
  rw [pushAll_append, pushAll_cons, push_failed failed]

end Builder

end MetricName

/-! ### Patterns -/

namespace Observation

theorem extend_eq_foldlM (o : Observation) (ds : DataSource) (name : String) (pattern : Pattern) :
    o.extend ds name pattern = (pattern.map (o.partText ds)).foldlM (MetricName.push o.nameLimit) name := by
  induction pattern generalizing name with
  | nil => rfl
  | cons part rest ih =>
    unfold extend
    rw [List.map_cons, List.foldlM_cons]
    exact congrArg _ (funext ih)

/-- The name that a pattern spells is built from the texts of its parts. -/
theorem metricName_eq_build {o : Observation} {ds : DataSource} (inRange : o.sample.values[o.index]? = some ds)
    (pattern : Pattern) :
    o.metricName pattern =
      (MetricName.build o.nameLimit o.namePrefix (pattern.map (o.partText ds))).mapError .name := by
  have source : o.dataSource = .ok ds := by
    unfold dataSource
    rw [inRange]
  unfold metricName MetricName.build
  rw [source]
  simp only [extend_eq_foldlM]
  rfl

/-- A data source called `value`, in any case, adds nothing to a name. -/
theorem partText_dataSource (o : Observation) (ds : DataSource) :
    o.partText ds .dataSource = if Text.lower ds.name = "value" then "" else ds.name := by
  have same : Text.eqIgnoreCase ds.name "value" = true ↔ Text.lower ds.name = "value" := Text.eqIgnoreCase_iff
  unfold partText
  simp only [same]

theorem partText_raw (o : Observation) (ds : DataSource) :
    o.partText ds .raw = if ds.value.kind ≠ .gauge ∧ o.sample.rate? o.index = none then "raw" else "" := by
  unfold partText rawOf rate?
  simp

end Observation

/-- The front loses all the dots at its end.  A name is built exactly if there is a segment, none has a NUL in it, and
their join keeps to the limit, and then it is the join, which is not empty, has no NUL in it and keeps to the limit.
Else the first segment at fault decides the error, if there is a segment.  A push on a builder that fails changes
nothing, so it might as well not have been made.  And whatever the sample, the limit and the pattern, the name that a
pattern spells is built from the texts of its parts, where a data source called `value` and a marker of what is not raw
are empty. -/
theorem MetricName.segments_joined (limit : Nat) (front : String) (parts : List String) :
    ((∃ n, front.toList = (trimDots front).toList ++ List.replicate n '.') ∧
      (trimDots front).toList.getLast? ≠ some '.') ∧
    (∀ name, build limit front parts = .ok name ↔
      segments front parts ≠ [] ∧ (∀ s ∈ segments front parts, '\x00' ∉ s.toList) ∧
        (join (segments front parts)).utf8ByteSize ≤ limit ∧ name = join (segments front parts)) ∧
    (∀ name, build limit front parts = .ok name →
      name ≠ "" ∧ '\x00' ∉ name.toList ∧ name.utf8ByteSize ≤ limit) ∧
    (∀ e, build limit front parts = .error e ↔
      FirstFault limit (segments front parts) e ∨ segments front parts = [] ∧ e = .empty) ∧
    (∀ (b : Builder) (s : String), b.push s =
      match push b.limit b.name s with
      | .ok name => (.ok (), { b with name })
      | .error e => (.error e, b)) ∧
    (∀ (b : Builder) (before after : List String) (s : String) (e : NameError),
      ((b.pushAll before).2.push s).1 = .error e → ((b.pushAll before).2.push s).2 = (b.pushAll before).2 ∧
        ∃ earlier later final, earlier.length = before.length ∧
          b.pushAll (before ++ after) = (earlier ++ later, final) ∧
          b.pushAll (before ++ s :: after) = (earlier ++ .error e :: later, final)) ∧
    ∀ (o : Observation) (ds : DataSource), o.sample.values[o.index]? = some ds →
      (∀ pattern, o.metricName pattern =
        (build o.nameLimit o.namePrefix (pattern.map (o.partText ds))).mapError .name) ∧
      o.partText ds .dataSource = (if Text.lower ds.name = "value" then "" else ds.name) ∧
      o.partText ds .raw =
        if ds.value.kind ≠ .gauge ∧ o.sample.rate? o.index = none then "raw" else "" := by
  refine ⟨trimDots_toList front, fun name => build_eq_ok_iff, ?_, fun e => build_eq_error_iff, Builder.push_eq, ?_, ?_⟩
  · intro name built
    obtain ⟨some, clean, short, rfl⟩ := build_eq_ok_iff.1 built
    have nonempty : join (segments front parts) ≠ "" := by
      rw [Ne, join_eq_empty_iff segments_ne_empty]
      exact some
    exact ⟨nonempty, nul_not_mem_join clean, short⟩
  · intro b before after s e failed
    exact ⟨congrArg Prod.snd (Builder.push_failed failed), Builder.pushAll_forgets failed after⟩
  · intro o ds inRange
    exact ⟨Observation.metricName_eq_build inRange, o.partText_dataSource ds, o.partText_raw ds⟩

/-- A value that is raw, under a limit that its name keeps to and one that it does not. -/
theorem MetricName.segments_joined_octets :
    let sample : Sample := {
      host := "h"
      plugin := "interface"
      typeName := "if_octets"
      values := [⟨"VALUE", .derive 5⟩] }
    let o : Observation := ⟨sample, 0, "h", "net..", 27, "5"⟩
    let parts := ["interface", "if_octets", "", "raw"]
    let b : Builder := ⟨"ab", 8⟩
    build 27 "net.." parts = .ok "net.interface.if_octets.raw" ∧
      o.metricName [.plugin, .type, .dataSource, .raw] = .ok "net.interface.if_octets.raw" ∧
      build 26 "net.." parts = .error (.tooLong 26) ∧
      ((b.pushAll ["c"]).2.push "\x00").1 = .error .nul ∧
      ∃ earlier later final, earlier.length = 1 ∧ b.pushAll ["c", "d"] = (earlier ++ later, final) ∧
        b.pushAll ["c", "\x00", "d"] = (earlier ++ .error .nul :: later, final) := by
  intro sample o parts b
  obtain ⟨-, built, -, -, -, forgets, spelt⟩ := segments_joined 27 "net.." parts
  obtain ⟨-, -, -, failed, -⟩ := segments_joined 26 "net.." parts
  have named : build 27 "net.." parts = .ok "net.interface.if_octets.raw" :=
    (built _).2 ⟨by decide, by decide, by decide, by decide⟩
  have spelling : o.metricName [.plugin, .type, .dataSource, .raw] = .ok "net.interface.if_octets.raw" :=
    ((spelt o _ rfl).1 _).trans (congrArg (Except.mapError SeriesError.name) named)
  have last : FirstFault 26 (segments "net.." parts) (.tooLong 26) :=
    ⟨["net", "interface", "if_octets"], "raw", [], by decide, fits_iff.2 ⟨by decide, by decide⟩, by decide⟩
  have nul : ((b.pushAll ["c"]).2.push "\x00").1 = .error .nul := by decide
  exact ⟨named, spelling, (failed _).2 (.inl last), nul, (forgets b ["c"] ["d"] "\x00" .nul nul).2⟩

end MetricFeed
