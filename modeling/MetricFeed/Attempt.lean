import MetricFeed.World

/-!
# Attempts

An operation that may fail still leaves a state and a world behind.  Attempts are put one after the other, where an
error ends the chain (`andThen`), and are read as attempts on a larger state (`within`).
-/

namespace MetricFeed

/-- What an operation on a state gives. -/
structure Attempt (ε σ α : Type) where
  result : Except ε α
  state : σ
  world : World

namespace Attempt

variable {ε ε' σ τ α β : Type}

def done (a : α) (s : σ) (w : World) : Attempt ε σ α := ⟨.ok a, s, w⟩

def fail (e : ε) (s : σ) (w : World) : Attempt ε σ α := ⟨.error e, s, w⟩

/-- Go on with `next` after a success; an error stands, with the state and the world it left. -/
def andThen (r : Attempt ε σ α) (next : α → σ → World → Attempt ε σ β) : Attempt ε σ β :=
  match r.result with
  | .ok a => next a r.state r.world
  | .error e => fail e r.state r.world

/-- An attempt on a part, as one on the whole. -/
def within (r : Attempt ε σ α) (put : σ → τ) : Attempt ε τ α :=
  ⟨r.result, put r.state, r.world⟩

def mapError (r : Attempt ε σ α) (f : ε → ε') : Attempt ε' σ α :=
  ⟨r.result.mapError f, r.state, r.world⟩

@[simp] theorem done_andThen (a : α) (s : σ) (w : World) (next : α → σ → World → Attempt ε σ β) :
    (done a s w).andThen next = next a s w := rfl

@[simp] theorem fail_andThen (e : ε) (s : σ) (w : World) (next : α → σ → World → Attempt ε σ β) :
    (fail e s w : Attempt ε σ α).andThen next = fail e s w := rfl

theorem andThen_done (r : Attempt ε σ α) : r.andThen done = r := by
  obtain ⟨result, s, w⟩ := r
  cases result <;> rfl

theorem andThen_of_ok {r : Attempt ε σ α} {a : α} (h : r.result = .ok a) (next : α → σ → World → Attempt ε σ β) :
    r.andThen next = next a r.state r.world := by
  unfold andThen
  rw [h]

theorem andThen_of_error {r : Attempt ε σ α} {e : ε} (h : r.result = .error e)
    (next : α → σ → World → Attempt ε σ β) : r.andThen next = fail e r.state r.world := by
  unfold andThen
  rw [h]

theorem andThen_assoc {γ : Type} (r : Attempt ε σ α) (f : α → σ → World → Attempt ε σ β)
    (g : β → σ → World → Attempt ε σ γ) :
    (r.andThen f).andThen g = r.andThen fun a s w => (f a s w).andThen g := by
  obtain ⟨result, s, w⟩ := r
  cases result <;> rfl

/-- Only the answer is put in other words. -/
theorem andThen_answer (r : Attempt ε σ α) (f : α → β) :
    (r.andThen fun a s w => done (f a) s w) = ⟨r.result.map f, r.state, r.world⟩ := by
  obtain ⟨result, s, w⟩ := r
  cases result <;> rfl

/-- What holds after each step of a chain holds after the chain. -/
theorem andThen_induction {r : Attempt ε σ α} {next : α → σ → World → Attempt ε σ β} (P : σ → World → Prop)
    (hr : P r.state r.world) (hn : ∀ a s w, P s w → P (next a s w).state (next a s w).world) :
    P (r.andThen next).state (r.andThen next).world := by
  unfold andThen
  split
  · exact hn _ _ _ hr
  · exact hr

end Attempt

end MetricFeed
