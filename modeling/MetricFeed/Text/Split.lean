/-!
# Cutting text at a character

`pieces` cuts a text at every occurrence of a character and `cut?` at the first one.  Both are stated on lists of
characters; a text without the character is a single piece.  What is left of a text when a character is taken off its
end is all of it up to there (`exists_dropEnd`).
-/

namespace MetricFeed.Text

/-- The stretches between the occurrences of `c`: one more than there are occurrences. -/
def pieces (c : Char) : List Char → List (List Char)
  | [] => [[]]
  | x :: xs =>
    if x = c then [] :: pieces c xs
    else match pieces c xs with
      | [] => [[x]]
      | p :: ps => (x :: p) :: ps

/-- The text before and after the first `c`. -/
def cut? (c : Char) : List Char → Option (List Char × List Char)
  | [] => none
  | x :: xs =>
    if x = c then some ([], xs)
    else (cut? c xs).map fun p => (x :: p.1, p.2)

theorem pieces_ne_nil (c : Char) (cs : List Char) : pieces c cs ≠ [] := by
  cases cs with
  | nil => simp [pieces]
  | cons x xs =>
    unfold pieces
    split
    · simp
    · split <;> simp

theorem pieces_of_not_mem {c : Char} {cs : List Char} (h : c ∉ cs) : pieces c cs = [cs] := by
  induction cs with
  | nil => rfl
  | cons x xs ih =>
    simp only [List.mem_cons, not_or] at h
    simp [pieces, ih h.2, Ne.symm h.1]

theorem pieces_append_cons {c : Char} {p rest : List Char} (h : c ∉ p) :
    pieces c (p ++ c :: rest) = p :: pieces c rest := by
  induction p with
  | nil => simp [pieces]
  | cons x xs ih =>
    simp only [List.mem_cons, not_or] at h
    simp [pieces, ih h.2, Ne.symm h.1]

theorem cut?_append_cons {c : Char} {p rest : List Char} (h : c ∉ p) :
    cut? c (p ++ c :: rest) = some (p, rest) := by
  induction p with
  | nil => simp [cut?]
  | cons x xs ih =>
    simp only [List.mem_cons, not_or] at h
    simp [cut?, ih h.2, Ne.symm h.1]

theorem cut?_eq_none {c : Char} {cs : List Char} (h : c ∉ cs) : cut? c cs = none := by
  induction cs with
  | nil => rfl
  | cons x xs ih =>
    simp only [List.mem_cons, not_or] at h
    simp [cut?, ih h.2, Ne.symm h.1]

/-- Nothing but `c` is taken off the end. -/
theorem exists_dropEnd (c : Char) (cs : List Char) :
    ∃ n, cs = (cs.reverse.dropWhile (· = c)).reverse ++ List.replicate n c := by
  refine ⟨(cs.reverse.takeWhile (· = c)).length, ?_⟩
  have off : cs.reverse.takeWhile (· = c) = List.replicate (cs.reverse.takeWhile (· = c)).length c := by
    rw [List.eq_replicate_iff]
    refine ⟨rfl, fun d mem => ?_⟩
    have all : (cs.reverse.takeWhile (· = c)).all (· = c) = true := List.all_takeWhile
    simpa using List.all_eq_true.1 all d mem
  rw [← List.reverse_replicate, ← off, ← List.reverse_append, List.takeWhile_append_dropWhile, List.reverse_reverse]

/-- Every `c` at the end is taken off. -/
theorem getLast?_dropEnd (c : Char) (cs : List Char) : (cs.reverse.dropWhile (· = c)).reverse.getLast? ≠ some c := by
  rw [List.getLast?_reverse]
  intro last
  have stop := List.head?_dropWhile_not (fun d => decide (d = c)) cs.reverse
  rw [last] at stop
  simp at stop

end MetricFeed.Text
