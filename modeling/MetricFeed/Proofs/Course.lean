import MetricFeed.Attempt
import Mathlib.Data.List.Induction

/-!
# Runs

A run is a finite list of calls.  Between two calls the clocks may move, forwards or backwards, and the machine may
come to answer differently when it is asked for its name.  What one call keeps up holds after every run
(`Course.run_induction`); if the clock never goes backwards, each call may rely on that (`Course.forward_induction`).
-/

namespace MetricFeed

/-- An operation, with what the clocks show and the machine answers when it is called for. -/
structure Call (ο : Type) where
  op : ο
  now : Int
  wall : Int
  machine : HostAnswer

/-- A world in which nothing has happened yet. -/
def World.fresh (network : Network) (now wall : Int) (machine : HostAnswer) : World :=
  { network, now, wall, machine }

/-- The world as a call finds it. -/
def World.atCall {ο : Type} (w : World) (c : Call ο) : World :=
  { w with now := c.now, wall := c.wall, machine := c.machine }

/-- What a run leaves behind: its operations with their results, oldest first, the state and the world. -/
structure Course (ε σ ο α : Type) where
  results : List (ο × Except ε α)
  state : σ
  world : World

namespace Course

variable {ε σ ο α : Type}

/-- The course with one more call. -/
def next (step : ο → σ → World → Attempt ε σ α) (k : Course ε σ ο α) (c : Call ο) : Course ε σ ο α :=
  let r := step c.op k.state (k.world.atCall c)
  ⟨k.results ++ [(c.op, r.result)], r.state, r.world⟩

/-- All calls, one after the other. -/
def run (step : ο → σ → World → Attempt ε σ α) (s : σ) (w : World) (calls : List (Call ο)) : Course ε σ ο α :=
  calls.foldl (next step) ⟨[], s, w⟩

theorem run_concat (step : ο → σ → World → Attempt ε σ α) (s : σ) (w : World) (calls : List (Call ο)) (c : Call ο) :
    run step s w (calls ++ [c]) = (run step s w calls).next step c := by
  unfold run
  rw [List.foldl_append, List.foldl_cons, List.foldl_nil]

/-- What holds after a run and is kept up by every call holds after every longer run. -/
theorem run_append_induction {step : ο → σ → World → Attempt ε σ α} {s : σ} {w : World} (P : Course ε σ ο α → Prop)
    (before after : List (Call ο)) (start : P (run step s w before)) (next : ∀ k c, P k → P (k.next step c)) :
    P (run step s w (before ++ after)) := by
  unfold run at start ⊢
  rw [List.foldl_append]
  generalize before.foldl (Course.next step) ⟨[], s, w⟩ = k at start ⊢
  induction after generalizing k with
  | nil => exact start
  | cons c after ih => exact ih _ (next k c start)

/-- What holds at the start and is kept up by every call holds after a run. -/
theorem run_induction {step : ο → σ → World → Attempt ε σ α} {s : σ} {w : World} (P : Course ε σ ο α → Prop)
    (start : P ⟨[], s, w⟩) (next : ∀ k c, P k → P (k.next step c)) (calls : List (Call ο)) :
    P (run step s w calls) :=
  run_append_induction P [] calls start next

end Course

/-- An entry of a history that has one more is that one, or it stands before it. -/
theorem Course.entry_of_concat {α : Type} {entries before after : List α} {latest x : α}
    (h : entries ++ [latest] = before ++ x :: after) :
    (before = entries ∧ x = latest ∧ after = []) ∨
      ∃ rest, after = rest ++ [latest] ∧ entries = before ++ x :: rest := by
  cases after using List.reverseRecOn with
  | nil =>
    obtain ⟨rfl, last⟩ := List.append_inj' h rfl
    cases last
    exact .inl ⟨rfl, rfl, rfl⟩
  | append_singleton rest y =>
    rw [← List.cons_append, ← List.append_assoc] at h
    obtain ⟨rfl, last⟩ := List.append_inj' h rfl
    cases last
    exact .inr ⟨rest, rfl, rfl⟩

/-! ### A clock that never goes backwards -/

/-- The clock that shows `now` at first shows no earlier time at a call than at the call before. -/
def Forward {ο : Type} (now : Int) (calls : List (Call ο)) : Prop :=
  (now :: calls.map Call.now).Pairwise (· ≤ ·)

instance {ο : Type} (now : Int) (calls : List (Call ο)) : Decidable (Forward now calls) :=
  inferInstanceAs (Decidable (List.Pairwise _ _))

theorem Forward.cons {ο : Type} {now : Int} {c : Call ο} {calls : List (Call ο)} (h : Forward now (c :: calls)) :
    now ≤ c.now ∧ Forward c.now calls := by
  obtain ⟨first, others⟩ := List.pairwise_cons.1 h
  exact ⟨first c.now List.mem_cons_self, others⟩

/-- What every call keeps up that comes no earlier than the one before holds after a run, if time does not pass within
a call. -/
theorem Course.forward_induction {ε σ ο α : Type} {step : ο → σ → World → Attempt ε σ α} {s : σ} {w : World}
    (P : Course ε σ ο α → Prop) (start : P ⟨[], s, w⟩)
    (next : ∀ k c, k.world.now ≤ c.now → P k → P (k.next step c) ∧ (k.next step c).world.now = c.now)
    {calls : List (Call ο)} (forward : Forward w.now calls) : P (run step s w calls) := by
  unfold run
  replace forward : Forward (⟨[], s, w⟩ : Course ε σ ο α).world.now calls := forward
  generalize (⟨[], s, w⟩ : Course ε σ ο α) = k at start forward
  induction calls generalizing k with
  | nil => exact start
  | cons c calls ih =>
    obtain ⟨later, others⟩ := forward.cons
    obtain ⟨kept, now⟩ := next k c later start
    rw [← now] at others
    exact ih _ kept others

end MetricFeed
