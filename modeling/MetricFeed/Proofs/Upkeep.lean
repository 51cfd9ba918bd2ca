import MetricFeed.Proofs.Conservation
import MetricFeed.Proofs.WriterMoves

/-!
# What channels keep up

A property of a channel in its world that every move of a channel keeps up (`Channel.Upheld`) is kept up by every
operation of a channel and of a writer, however many lines the operation hands over and whatever fails on the way
(`Channel.Upheld.channel_act`, `Channel.Upheld.writer_act`).  So laws about runs of writers need no more than the moves
of a channel.  All that a run of a writer does to its channel are operations of the channel, and the lines accepted are
those whose `send` succeeded (`Writer.performs_course`, `Channel.Performs.acceptedLines`).
-/

namespace MetricFeed

namespace Channel

/-- Every move of a channel keeps `P` up, and so do log entries. -/
structure Upheld (P : Channel → World → Prop) : Prop where
  note : ∀ {t : Channel} {w w' : World}, P t w → w.Leads [] w' → P t w'
  send : ∀ {t : Channel} {line : String} {w : World} {r : Attempt DeliveryError Channel Unit},
    t.Sound → P t w → Sends t line w r → P r.state r.world
  flush : ∀ {t : Channel} {timeout : Nat} {w : World} {r : Attempt DeliveryError Channel Unit},
    t.Sound → P t w → Flushes t timeout w r → P r.state r.world
  shutdown : ∀ {t : Channel} {w : World} {r : Attempt DeliveryError Channel Unit},
    t.Sound → P t w → Ends t w r → P r.state r.world

theorem upheld_sound : Upheld fun t _ => t.Sound where
  note h _ := h
  send sound _ h := h.sound sound
  flush sound _ h := h.sound sound
  shutdown sound _ h := h.sound sound

theorem upheld_accounted : Upheld Accounted where
  note h notes := h.note notes
  send _ h sends := h.send sends
  flush _ h flushes := h.flush flushes
  shutdown _ h ends := h.shutdown ends

namespace Upheld

variable {P : Channel → World → Prop} (upheld : Upheld P)

include upheld

theorem channel_act {t : Channel} {w : World} (sound : t.Sound) (h : P t w) (op : Op) :
    P (act op t w).state (act op t w).world := by
  cases op with
  | send line => exact upheld.send sound h (send_cases sound line w)
  | flush timeout => exact upheld.flush sound h (flush_cases sound.linked timeout w)
  | shutdown => exact upheld.shutdown sound h (shutdown_cases sound w)

theorem fed {t t' : Channel} {w w' : World} {fed : List (String × Except DeliveryError Unit)}
    (hf : Fed t w fed t' w') (sound : t.Sound) (h : P t w) : t'.Sound ∧ P t' w' := by
  induction hf with
  | start => exact ⟨sound, h⟩
  | note _ notes ih => exact ⟨ih.1, upheld.note ih.2 notes⟩
  | @send _ t₁ w₁ _ _ line ih =>
    have sends := send_cases ih.1 line w₁
    exact ⟨sends.sound ih.1, upheld.send ih.1 ih.2 sends⟩

theorem writer_act {x : Writer} {w : World} (sound : x.channel.Sound) (h : P x.channel w) (op : Writer.Op) :
    P (Writer.act op x w).state.channel (Writer.act op x w).world := by
  cases Writer.act_cases op x w with
  | sends relays =>
    obtain ⟨fed, hf, -⟩ := relays
    exact (upheld.fed hf sound h).2
  | flushes timeout mirrors =>
    rw [mirrors.channel]
    exact upheld.note (upheld.flush sound h (flush_cases sound.linked timeout w)) mirrors.notes
  | ends mirrors =>
    rw [mirrors.channel]
    exact upheld.note (upheld.shutdown sound h (shutdown_cases sound w)) mirrors.notes

end Upheld

/-! ### Operations in the course of others -/

/-- A channel performed these operations, each with its result; log entries were made and time passed in between. -/
inductive Performs (t : Channel) (w : World) : List (Op × Except DeliveryError Unit) → Channel → World → Prop where
  | start : Performs t w [] t w
  | note {performed : List (Op × Except DeliveryError Unit)} {t' : Channel} {w' w'' : World}
    (before : Performs t w performed t' w') (notes : w'.Leads [] w'') : Performs t w performed t' w''
  | wait {performed : List (Op × Except DeliveryError Unit)} {t' : Channel} {w' : World} {ο : Type}
    (before : Performs t w performed t' w') (c : Call ο) : Performs t w performed t' (w'.atCall c)
  | act {performed : List (Op × Except DeliveryError Unit)} {t' : Channel} {w' : World}
    (before : Performs t w performed t' w') (op : Op) :
    Performs t w (performed ++ [(op, (act op t' w').result)]) (act op t' w').state (act op t' w').world

namespace Performs

variable {t t' t'' : Channel} {w w' w'' : World} {a b : List (Op × Except DeliveryError Unit)}

theorem trans (h₁ : Performs t w a t' w') (h₂ : Performs t' w' b t'' w'') : Performs t w (a ++ b) t'' w'' := by
  induction h₂ with
  | start =>
    rw [List.append_nil]
    exact h₁
  | note _ notes ih => exact ih.note notes
  | wait _ c ih => exact ih.wait c
  | act _ op ih =>
    rw [← List.append_assoc]
    exact ih.act op

/-- The lines accepted in between are those whose `send` succeeded. -/
theorem acceptedLines (h : Performs t w a t' w') (sound : t.Sound) :
    t'.Sound ∧ w'.acceptedLines = w.acceptedLines ++ sentLines a := by
  induction h with
  | start => exact ⟨sound, (List.append_nil _).symm⟩
  | note _ notes ih => exact ⟨ih.1, (notes.acceptedLines.trans (List.append_nil _)).trans ih.2⟩
  | wait _ _ ih => exact ih
  | @act performed t₁ w₁ _ op ih =>
    refine ⟨upheld_sound.channel_act (w := w₁) ih.1 ih.1 op, ?_⟩
    rw [acceptedLines_act ih.1, ih.2, List.append_assoc]
    unfold sentLines
    rw [List.filterMap_append]

theorem ofFed {fed : List (String × Except DeliveryError Unit)} (h : Fed t w fed t' w') :
    Performs t w (fed.map fun p => (.send p.1, p.2)) t' w' := by
  induction h with
  | start => exact .start
  | note _ notes ih => exact ih.note notes
  | send _ _ line ih =>
    rw [List.map_append]
    exact ih.act (.send line)

end Performs

end Channel

namespace Writer

theorem performs_act (op : Op) (x : Writer) (w : World) : ∃ performed,
    x.channel.Performs w performed (act op x w).state.channel (act op x w).world := by
  cases act_cases op x w with
  | sends relays =>
    obtain ⟨fed, hf, -⟩ := relays
    exact ⟨_, .ofFed hf⟩
  | flushes timeout mirrors =>
    rw [mirrors.channel]
    exact ⟨_, (Channel.Performs.start.act (.flush timeout)).note mirrors.notes⟩
  | ends mirrors =>
    rw [mirrors.channel]
    exact ⟨_, (Channel.Performs.start.act .shutdown).note mirrors.notes⟩

/-- A run of a writer comes to operations of its channel. -/
theorem performs_course (s : Settings) (network : Network) (now wall : Int) (machine : HostAnswer)
    (calls : List (Call Op)) :
    let start := Writer.ofSettings s (.fresh network now wall machine)
    let k := course s network now wall machine calls
    ∃ performed, start.1.channel.Performs start.2 performed k.state.channel k.world := by
  intro start
  apply Course.run_induction fun k : Course WriteError Writer Op Answer =>
    ∃ performed, start.1.channel.Performs start.2 performed k.state.channel k.world
  · exact ⟨[], .start⟩
  intro k c before
  obtain ⟨performed, before⟩ := before
  obtain ⟨more, after⟩ := performs_act c.op k.state (k.world.atCall c)
  exact ⟨performed ++ more, (before.wait c).trans after⟩

end Writer

end MetricFeed
