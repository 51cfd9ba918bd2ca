/-!
# Quoted fields

A field stands between double quotes, and a quote inside it is written twice.  `take?` reads a field back: it ends at
the first quote that no second one follows, so whatever a field holds is told apart from what comes after it
(`take?_body`).
-/

namespace MetricFeed.Text.Quoted

/-- A character inside a field. -/
def charText (c : Char) : List Char :=
  if c = '"' then ['"', '"'] else [c]

/-- What stands between the quotes of a field. -/
def body (cs : List Char) : List Char :=
  cs.flatMap charText

/-- A field after its opening quote, and what follows its closing quote. -/
def take? : List Char → Option (List Char × List Char)
  | [] => none
  | '"' :: '"' :: cs => (take? cs).map fun r => ('"' :: r.1, r.2)
  | c :: cs => if c = '"' then some ([], cs) else (take? cs).map fun r => (c :: r.1, r.2)

theorem body_cons (c : Char) (cs : List Char) : body (c :: cs) = charText c ++ body cs := by
  simp [body]

theorem body_append (a b : List Char) : body (a ++ b) = body a ++ body b := by
  simp [body]

theorem length_body (cs : List Char) : (body cs).length = cs.length + cs.count '"' := by
  induction cs with
  | nil => rfl
  | cons c cs ih =>
    rw [body_cons, List.length_append, ih, List.length_cons, List.count_cons]
    by_cases h : c = '"'
    · subst h
      simp only [charText, if_true, List.length_cons, List.length_nil, beq_self_eq_true]
      omega
    · have : (c == '"') = false := beq_eq_false_iff_ne.2 h
      simp only [charText, h, if_false, List.length_cons, List.length_nil, this]
      simp
      omega

/-- A closing quote ends a field if no quote follows it. -/
theorem take?_quote {rest : List Char} (h : rest.head? ≠ some '"') : take? ('"' :: rest) = some ([], rest) := by
  match rest with
  | [] => rfl
  | c :: cs =>
    have hc : c ≠ '"' := fun e => h (by rw [e]; rfl)
    rw [take?]
    · rfl
    · intro cs' _ hcs
      exact hc (List.cons.inj hcs).1

theorem take?_body (cs : List Char) {rest : List Char} (h : rest.head? ≠ some '"') :
    take? (body cs ++ '"' :: rest) = some (cs, rest) := by
  induction cs with
  | nil => exact take?_quote h
  | cons c cs ih =>
    rw [body_cons, List.append_assoc]
    by_cases hc : c = '"'
    · subst hc
      have : charText '"' = ['"', '"'] := rfl
      rw [this, List.cons_append, List.cons_append, List.nil_append, take?, ih]
      rfl
    · have : charText c = [c] := if_neg hc
      rw [this, List.cons_append, List.nil_append, take?, if_neg hc, ih]
      · rfl
      · intro cs' h' _
        exact hc h'

end MetricFeed.Text.Quoted
