import MetricFeed.Proofs.Fates

/-!
# A filter that is consistent

A check fails if the filter does not hold what it has just looked up, or still holds what it has just taken out, and
the error would end the sample.  Neither happens: a check comes to a decision (`ChangeFilter.judge_fst`), so what ends
a sample lies in the sample or in its delivery, and no operation of any run returns an error of the class `inconsistent`
(`Writer.consistent_course`).
-/

namespace MetricFeed

/-! ### Results -/

namespace WriteError

/-- The result does not tell of an inconsistent filter. -/
def Consistent {α : Type} (r : Except WriteError α) : Prop :=
  ∀ e, r = .error e → e.errorClass ≠ .inconsistent

variable {α β : Type}

theorem Consistent.ok (a : α) : Consistent (.ok a) :=
  nofun

theorem Consistent.error {e : WriteError} (h : e.errorClass ≠ .inconsistent) :
    Consistent (.error e : Except WriteError α) := by
  intro e' same
  cases same
  exact h

theorem Consistent.map {r : Except WriteError α} (h : Consistent r) (f : α → β) : Consistent (r.map f) := by
  cases r with
  | ok a => exact .ok (f a)
  | error e => exact .error (h e rfl)

theorem consistent_delivery (e : DeliveryError) : Consistent (.error (.delivery e) : Except WriteError α) := by
  apply Consistent.error
  rw [errorClass_delivery]
  split
  · exact nofun
  · exact nofun

theorem consistent_mapError (r : Except DeliveryError α) : Consistent (r.mapError .delivery) := by
  cases r with
  | ok a => exact .ok a
  | error e => exact consistent_delivery e

end WriteError

/-! ### Operations and runs -/

namespace Writer

open WriteError

variable {x : Writer}

/-- A sample is turned down for what it holds, or ended by an error of the delivery. -/
theorem consistent_write (sound : x.channel.Sound) (s : Sample) (w : World) : Consistent (x.write s w).result := by
  have writes := write_cases sound s w
  generalize x.write s w = r at writes ⊢
  cases writes with
  | invalid e unprepared =>
    rcases error_of_prepare unprepared with ⟨fault, rfl⟩ | ⟨fault, rfl⟩
    · exact .error nofun
    · exact .error nofun
  | closed => exact consistent_delivery .closed
  | fares entity r _ fares =>
    unfold concluded
    dsimp only
    cases fares with
    | done result =>
      rw [result]
      exact .ok _
    | stopped e result =>
      rw [result]
      exact consistent_delivery e

theorem consistent_writeProperty (p : Property) (w : World) : Consistent (x.writeProperty p w).result := by
  unfold writeProperty
  split
  · exact .error nofun
  · split
    · exact .error nofun
    · rename_i line _
      have sent : Consistent (x.sendLine line w).result := consistent_mapError _
      unfold sendProperty
      dsimp only
      split
      · exact .ok ()
      · rename_i e failed
        exact .error (sent e failed)

theorem consistent_flush (timeout : Nat) (w : World) : Consistent (x.flush timeout w).result := by
  unfold flush
  dsimp only
  split
  · exact .ok ()
  · exact consistent_delivery _

theorem consistent_shutdown (w : World) : Consistent (x.shutdown w).result := by
  unfold shutdown
  split
  · exact .ok ()
  · exact consistent_mapError _

theorem consistent_act (sound : x.channel.Sound) (op : Op) (w : World) : Consistent (act op x w).result := by
  cases op with
  | write s =>
    rw [act_write_eq]
    exact (consistent_write sound s w).map _
  | flush timeout =>
    rw [act_flush_eq]
    exact (consistent_flush timeout w).map _
  | property p =>
    rw [act_property_eq]
    exact (consistent_writeProperty p w).map _
  | propertyIfDue p =>
    rw [act_propertyIfDue_eq]
    refine Consistent.map ?_ _
    cases due : x.propertyDue w.now with
    | false =>
      rw [writePropertyIfDue_of_early due]
      exact .ok false
    | true =>
      rw [writePropertyIfDue_of_due due]
      exact (consistent_writeProperty p w).map _
  | shutdown =>
    rw [act_shutdown_eq]
    exact (consistent_shutdown w).map _

/-- In no run does an operation fail for an inconsistency. -/
theorem consistent_course (s : Settings) (network : Network) (now wall : Int) (machine : HostAnswer)
    (calls : List (Call Op)) :
    ∀ a ∈ (course s network now wall machine calls).results, Consistent a.2 := by
  have start : (ofSettings s (.fresh network now wall machine)).1.channel.Sound := Channel.sound_new _ _ _ _ _
  refine (Course.run_induction (fun k : Course WriteError Writer Op Answer =>
    k.state.channel.Sound ∧ ∀ a ∈ k.results, Consistent a.2) ⟨start, fun a ha => by cases ha⟩ ?_ calls).2
  rintro k c ⟨sound, before⟩
  refine ⟨Channel.upheld_sound.writer_act (w := k.world.atCall c) sound sound c.op, fun a ha => ?_⟩
  rcases List.mem_append.1 ha with ha | ha
  · exact before a ha
  · rw [List.mem_singleton.1 ha]
    exact consistent_act sound c.op _

end Writer

end MetricFeed
