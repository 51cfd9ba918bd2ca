import MetricFeed.Time

/-!
# Batches

The lines that wait to be written together, bounded in bytes, and the instant since when they wait.
-/

namespace MetricFeed

structure Batch where
  /-- In bytes. -/
  capacity : Nat
  text : String := ""
  openedAt : Int

namespace Batch

/-- In bytes. -/
def size (b : Batch) : Nat := b.text.utf8ByteSize

def isEmpty (b : Batch) : Bool := b.text.isEmpty

def remaining (b : Batch) : Nat := b.capacity - b.size

def fits (b : Batch) (length : Nat) : Bool := length ≤ b.remaining

/-- The batch with one more line, if that fits. -/
def push? (b : Batch) (line : String) : Option Batch :=
  if b.fits line.utf8ByteSize then some { b with text := b.text ++ line } else none

/-- How long the batch has been open, in microseconds. -/
def age (b : Batch) (now : Int) : Nat := Micros.since b.openedAt now

def touch (b : Batch) (now : Int) : Batch := { b with openedAt := now }

def reset (b : Batch) (now : Int) : Batch := { b with text := "", openedAt := now }

theorem size_push? {b b' : Batch} {line : String} (h : b.push? line = some b') :
    b'.size = b.size + line.utf8ByteSize ∧ b'.capacity = b.capacity := by
  unfold push? at h
  split at h
  · cases h
    simp [size, String.utf8ByteSize_append]
  · cases h

theorem size_le_of_push? {b b' : Batch} {line : String} (h : b.push? line = some b') (hb : b.size ≤ b.capacity) :
    b'.size ≤ b'.capacity := by
  obtain ⟨hs, hc⟩ := size_push? h
  unfold push? at h
  split at h
  · rename_i hf
    have := of_decide_eq_true hf
    unfold remaining at this
    omega
  · cases h

end Batch

end MetricFeed
