import MetricFeed.Proofs.ChannelMoves
import MetricFeed.Proofs.Course

/-!
# Runs of a link

A link by itself can be brought up, written to and taken down.  Its writes have three cases (`Link.write_cases`), and
no operation does anything to the world but add to its history (`Link.leads_act`).
-/

namespace MetricFeed

namespace Link

/-- What writing a block can come to. -/
inductive Writes (l : Link) (block : String) (w : World) : Attempt DeliveryError Link Unit → Prop where
  | refused (down : l.up = false) : Writes l block w (.fail (.notLinked l.target) l w)
  | delivered (w' : World) (up : l.up = true) (news : w.Leads [.wrote block .delivered] w') :
    Writes l block w (.done () (l.carried block.utf8ByteSize) w')
  | lost (reason : String) (w' : World) (up : l.up = true) (news : w.Leads [.wrote block (.failed reason)] w') :
    Writes l block w (.fail (.broken l.target reason) l.dropped w')

theorem write_cases (l : Link) (block : String) (w : World) : Writes l block w (l.write block w) := by
  have news := w.leads_write block
  unfold write
  split
  · rename_i up
    cases outcome : w.network.write w.writes with
    | delivered =>
      have eq : w.write block = (.delivered, (w.write block).2) := Prod.ext outcome rfl
      rw [show (w.write block).1 = .delivered from outcome] at news
      rw [eq]
      exact .delivered _ up news
    | failed reason =>
      have eq : w.write block = (.failed reason, (w.write block).2) := Prod.ext outcome rfl
      rw [show (w.write block).1 = .failed reason from outcome] at news
      rw [eq]
      exact .lost reason _ up news
  · rename_i down
    exact .refused (by simpa using down)

inductive Op where
  | connect
  | write (block : String)
  | close

def act (op : Op) (l : Link) (w : World) : Attempt DeliveryError Link Unit :=
  match op with
  | .connect => (l.connect w).andThen fun _ l w => .done () l w
  | .write block => l.write block w
  | .close => .done () (l.close w).1 (l.close w).2

variable {l : Link} {w : World}

theorem Connects.leads {r : Attempt DeliveryError Link Bool} (h : Connects l w r) : ∃ news, w.Leads news r.world := by
  cases h with
  | already => exact ⟨_, .refl w⟩
  | throttled wait => exact ⟨_, w.leads_record rfl⟩
  | linked outage w' _ _ _ news => exact ⟨_, news⟩
  | missed e outcome outage w' _ _ _ _ news => exact ⟨_, news⟩

theorem Writes.leads {block : String} {r : Attempt DeliveryError Link Unit} (h : Writes l block w r) :
    ∃ news, w.Leads news r.world := by
  cases h with
  | refused => exact ⟨_, .refl w⟩
  | delivered w' _ news => exact ⟨_, news⟩
  | lost reason w' _ news => exact ⟨_, news⟩

theorem leads_act (op : Op) (l : Link) (w : World) : ∃ news, w.Leads news (act op l w).world := by
  cases op with
  | connect =>
    have leads := (l.connect_cases w).leads
    exact Attempt.andThen_induction (fun _ w' => ∃ news, w.Leads news w') leads fun _ _ _ h => h
  | write block => exact (l.write_cases block w).leads
  | close => exact ⟨_, (l.close_eq w).2⟩

end Link

end MetricFeed
