/-!
# Text as bytes

`lossy` reads bytes as UTF-8 and writes one U+FFFD for each maximal part that no well-formed sequence contains;
`compareBytes` orders two texts by their UTF-8 bytes.
-/

namespace MetricFeed.Text

/-! ### Order by bytes -/

def bytes (s : String) : List UInt8 :=
  s.toByteArray.data.toList

/-- Lexicographic order of the UTF-8 bytes. -/
def compareBytes (a b : String) : Ordering :=
  List.compareLex compare (bytes a) (bytes b)

/-! ### Reading bytes that may not be UTF-8 -/

/-- How the sequence that starts with a byte goes on: the range of the next byte and how many bytes follow in all. -/
def sequenceAfter (lead : UInt8) : Option (UInt8 × UInt8 × Nat) :=
  if 0xC2 ≤ lead && lead ≤ 0xDF then some (0x80, 0xBF, 1)
  else if lead = 0xE0 then some (0xA0, 0xBF, 2)
  else if lead = 0xED then some (0x80, 0x9F, 2)
  else if 0xE1 ≤ lead && lead ≤ 0xEF then some (0x80, 0xBF, 2)
  else if lead = 0xF0 then some (0x90, 0xBF, 3)
  else if 0xF1 ≤ lead && lead ≤ 0xF3 then some (0x80, 0xBF, 3)
  else if lead = 0xF4 then some (0x80, 0x8F, 3)
  else none

/-- The continuation bytes at the front of `bs`: at most `n`, the first within `lo` and `hi`. -/
def continuation (lo hi : UInt8) : Nat → List UInt8 → List UInt8
  | 0, _ => []
  | _, [] => []
  | n + 1, b :: bs => if lo ≤ b && b ≤ hi then b :: continuation 0x80 0xBF n bs else []

theorem length_continuation_le (lo hi : UInt8) (n : Nat) (bs : List UInt8) :
    (continuation lo hi n bs).length ≤ bs.length := by
  induction n generalizing lo hi bs with
  | zero => simp [continuation]
  | succ n ih =>
    cases bs with
    | nil => simp [continuation]
    | cons b bs =>
      unfold continuation
      split
      · simpa using ih 0x80 0xBF bs
      · simp

/-- The code point of a complete sequence. -/
def codePoint (lead : UInt8) (tail : List UInt8) : Nat :=
  let bits := match tail.length with
    | 1 => lead.toNat % 32
    | 2 => lead.toNat % 16
    | _ => lead.toNat % 8
  tail.foldl (fun n b => n * 64 + b.toNat % 64) bits

def lossyChars : List UInt8 → List Char
  | [] => []
  | b :: bs =>
    if b < 0x80 then Char.ofNat b.toNat :: lossyChars bs
    else match sequenceAfter b with
      | none => '\uFFFD' :: lossyChars bs
      | some (lo, hi, n) =>
        let tail := continuation lo hi n bs
        let c := if tail.length = n then Char.ofNat (codePoint b tail) else '\uFFFD'
        c :: lossyChars (bs.drop tail.length)
termination_by bs => bs.length
decreasing_by all_goals (simp only [List.length_drop, List.length_cons]; omega)

/-- The bytes as text, with one U+FFFD for each maximal invalid part. -/
def lossy (bs : List UInt8) : String :=
  String.ofList (lossyChars bs)

/-- The text of well-formed UTF-8. -/
def ofBytes? (bs : List UInt8) : Option String :=
  String.fromUTF8? ⟨bs.toArray⟩

end MetricFeed.Text
