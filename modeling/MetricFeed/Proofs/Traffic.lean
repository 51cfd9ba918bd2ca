import MetricFeed.World

/-!
# Traffic

What a channel does to the world, its log entries aside: the dials it makes or puts off, the blocks it writes and the
lines it accepts.  `w.Leads news w'` says that `w'` is `w` after the traffic `news`, with all else that an operation
finds in the world unchanged; such steps compose (`Leads.trans`), and the views of a history follow along.
-/

namespace MetricFeed

namespace Event

/-- A log entry only tells of what happens. -/
def isTraffic : Event → Bool
  | logged _ => false
  | _ => true

/-- A dial or a write that failed, or a dial that was put off. -/
def isSetback : Event → Bool
  | dialed _ .linked => false
  | dialed _ _ => true
  | postponed _ _ => true
  | wrote _ .delivered => false
  | wrote _ (.failed _) => true
  | accepted _ _ => false
  | logged _ => false

/-- The block of a write, and what became of it. -/
def handed? : Event → Option (String × WriteOutcome)
  | wrote block outcome => some (block, outcome)
  | _ => none

/-- A line that was accepted, with the time. -/
def acceptance? : Event → Option (Int × String)
  | accepted time line => some (time, line)
  | _ => none

end Event

namespace World

/-- Newest first. -/
def traffic (w : World) : List Event :=
  w.history.filter Event.isTraffic

/-- The blocks handed to a link and what became of each, oldest first. -/
def handed (w : World) : List (String × WriteOutcome) :=
  (w.history.filterMap Event.handed?).reverse

/-- The lines accepted, each with the time, oldest first. -/
def acceptances (w : World) : List (Int × String) :=
  (w.history.filterMap Event.acceptance?).reverse

/-! ### From one world to another -/

/-- The second world is the first after `news`, newest first. -/
structure Leads (w : World) (news : List Event) (w' : World) : Prop where
  network : w'.network = w.network
  now : w'.now = w.now
  wall : w'.wall = w.wall
  machine : w'.machine = w.machine
  traffic : w'.traffic = news ++ w.traffic

theorem Leads.refl (w : World) : w.Leads [] w :=
  ⟨rfl, rfl, rfl, rfl, rfl⟩

theorem Leads.trans {w w₁ w₂ : World} {a b : List Event} (h₁ : w.Leads a w₁) (h₂ : w₁.Leads b w₂) :
    w.Leads (b ++ a) w₂ where
  network := h₂.network.trans h₁.network
  now := h₂.now.trans h₁.now
  wall := h₂.wall.trans h₁.wall
  machine := h₂.machine.trans h₁.machine
  traffic := by rw [h₂.traffic, h₁.traffic, List.append_assoc]

theorem leads_log (w : World) (level : Level) (message : String) (fields : List (String × String)) :
    w.Leads [] (w.log level message fields) :=
  ⟨rfl, rfl, rfl, rfl, rfl⟩

theorem leads_record (w : World) {e : Event} (h : e.isTraffic = true) : w.Leads [e] (w.record e) where
  network := rfl
  now := rfl
  wall := rfl
  machine := rfl
  traffic := List.filter_cons_of_pos h

theorem leads_dial (w : World) (t : Target) : w.Leads [.dialed w.now (w.dial t).1] (w.dial t).2 :=
  ⟨rfl, rfl, rfl, rfl, rfl⟩

theorem leads_write (w : World) (block : String) : w.Leads [.wrote block (w.write block).1] (w.write block).2 :=
  ⟨rfl, rfl, rfl, rfl, rfl⟩

/-! ### Views -/

/-- A view that ignores log entries is one of the traffic. -/
theorem filterMap_traffic {β : Type} {f : Event → Option β} (hf : ∀ entry, f (.logged entry) = none) (w : World) :
    w.traffic.filterMap f = w.history.filterMap f := by
  unfold traffic
  induction w.history with
  | nil => rfl
  | cons e es ih =>
    cases e with
    | logged entry => rw [List.filter_cons_of_neg (by simp [Event.isTraffic]), List.filterMap_cons_none (hf entry), ih]
    | _ =>
      rw [List.filter_cons_of_pos rfl, List.filterMap_cons, List.filterMap_cons, ih]

theorem Leads.filterMap {β : Type} {f : Event → Option β} (hf : ∀ entry, f (.logged entry) = none) {w w' : World}
    {news : List Event} (h : w.Leads news w') :
    w'.history.filterMap f = news.filterMap f ++ w.history.filterMap f := by
  rw [← filterMap_traffic hf, ← filterMap_traffic hf, h.traffic, List.filterMap_append]

theorem Leads.acceptedLines {w w' : World} {news : List Event} (h : w.Leads news w') :
    w'.acceptedLines = w.acceptedLines ++ (news.filterMap Event.accepted?).reverse := by
  unfold World.acceptedLines
  rw [h.filterMap (fun _ => rfl), List.reverse_append]

theorem Leads.handed {w w' : World} {news : List Event} (h : w.Leads news w') :
    w'.handed = w.handed ++ (news.filterMap Event.handed?).reverse := by
  unfold World.handed
  rw [h.filterMap (fun _ => rfl), List.reverse_append]

theorem Leads.acceptances {w w' : World} {news : List Event} (h : w.Leads news w') :
    w'.acceptances = w.acceptances ++ (news.filterMap Event.acceptance?).reverse := by
  unfold World.acceptances
  rw [h.filterMap (fun _ => rfl), List.reverse_append]

theorem map_snd_acceptances (w : World) : w.acceptances.map Prod.snd = w.acceptedLines := by
  unfold acceptances acceptedLines
  rw [List.map_reverse, List.map_filterMap]
  congr 2
  funext e
  cases e <;> rfl

theorem Leads.deliveredBlocks {w w' : World} {news : List Event} (h : w.Leads news w') :
    w'.deliveredBlocks = w.deliveredBlocks ++ (news.filterMap Event.delivered?).reverse := by
  unfold World.deliveredBlocks
  rw [h.filterMap (fun _ => rfl), List.reverse_append]

end World

end MetricFeed
