import MetricFeed.Text.Quoted

/-!
# Names

A metric name is a list of segments joined by dots, built segment by segment under a limit on its bytes.  An empty
segment is skipped, and a segment that fails leaves the name as it was.  A quoted field of a command is bounded too.
-/

namespace MetricFeed

inductive NameError where
  | fieldTooLong (length max : Nat)
  | tooLong (max : Nat)
  | empty
  | nul
  | hostname (reason : String)
  deriving DecidableEq

def NameError.message : NameError → String
  | .fieldTooLong length max =>
    "field of " ++ toString length ++ " bytes exceeds the " ++ toString max ++ " byte limit"
  | .tooLong max => "metric name exceeds " ++ toString max ++ " bytes"
  | .empty => "metric name is empty"
  | .nul => "name contains a NUL byte"
  | .hostname reason => "local hostname lookup failed: " ++ reason

/-! ### Quoted fields -/

/-- The most bytes a quoted field may take, its doubled quotes counted. -/
def maxFieldLength : Nat := 768

/-- The text of a field between its quotes. -/
def quoteField (s : String) : Except NameError String :=
  let length := s.utf8ByteSize + s.toList.count '"'
  if maxFieldLength < length then .error (.fieldTooLong length maxFieldLength)
  else .ok (String.ofList (Text.Quoted.body s.toList))

/-! ### Metric names -/

namespace MetricName

/-- The name with one more segment. -/
def push (limit : Nat) (name segment : String) : Except NameError String :=
  if segment.isEmpty then .ok name
  else if segment.toList.contains '\x00' then .error .nul
  else
    let joined := if name.isEmpty then segment else name ++ "." ++ segment
    if limit < joined.utf8ByteSize then .error (.tooLong limit) else .ok joined

/-- The text without the dots at its end. -/
def trimDots (s : String) : String :=
  String.ofList (s.toList.reverse.dropWhile (· = '.')).reverse

/-- The name that `front` alone makes, its dots at the end ignored. -/
def start (limit : Nat) (front : String) : Except NameError String :=
  push limit "" (trimDots front)

def finish (name : String) : Except NameError String :=
  if name.isEmpty then .error .empty else .ok name

/-- The name of `front` followed by the segments. -/
def build (limit : Nat) (front : String) (segments : List String) : Except NameError String := do
  let name ← start limit front
  let name ← segments.foldlM (push limit) name
  finish name

theorem push_empty (limit : Nat) (name : String) : push limit name "" = .ok name := by
  simp [push]

theorem size_le_of_push {limit : Nat} {name segment joined : String} (h : push limit name segment = .ok joined)
    (hn : name.utf8ByteSize ≤ limit) : joined.utf8ByteSize ≤ limit := by
  unfold push at h
  split at h
  · cases h
    exact hn
  · split at h
    · cases h
    · generalize (if name.isEmpty then segment else name ++ "." ++ segment) = whole at h
      dsimp only at h
      split at h
      · cases h
      · rename_i hl
        cases h
        exact Nat.le_of_not_lt hl

end MetricName

end MetricFeed
