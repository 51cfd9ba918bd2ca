import MetricFeed.Json.Reader

/-!
# How many steps reading takes

A reader of a JSON document is given a number of steps.  It takes no more of them than characters off the front of the
text (`Json.thrifty_take`), so with at least as many steps as the text has characters, their number makes no difference
(`Json.takeValue?_enough`).
-/

namespace MetricFeed.Json

variable {fuel : Nat} {cs rest : List Char}

/-! ### What is left -/

theorem length_skip_le (cs : List Char) : (skip cs).length ≤ cs.length :=
  (List.dropWhile_sublist _).length_le

theorem length_lt_of_skip {c : Char} (h : skip cs = c :: rest) : rest.length < cs.length := by
  have := length_skip_le cs
  rw [h, List.length_cons] at this
  omega

theorem Literal.length_take?_le {done : List Literal.Piece} {r : List Literal.Piece × List Char}
    (h : Literal.take? done cs = some r) : r.2.length ≤ cs.length := by
  fun_induction Literal.take? done cs with
  | case1 =>
    cases h
    exact Nat.le_succ _
  | case2 _ _ _ _ _ _ _ _ ih =>
    have := ih h
    simp only [List.length_cons]
    omega
  | case3 => cases h
  | case4 _ _ _ _ _ _ ih =>
    have := ih h
    simp only [List.length_cons]
    omega
  | case5 => cases h
  | case6 => cases h
  | case7 _ _ _ _ _ _ _ ih => exact Nat.le_succ_of_le (ih h)
  | case8 => cases h

theorem length_takeText?_le {r : Option String × List Char} (h : takeText? cs = some r) : r.2.length ≤ cs.length := by
  unfold takeText? at h
  obtain ⟨pieces, taken, rfl⟩ := Option.map_eq_some_iff.1 h
  exact Literal.length_take?_le taken

theorem length_takeKey?_le {r : Option String × List Char} (h : takeKey? cs = some r) : r.2.length ≤ cs.length := by
  unfold takeKey? at h
  split at h
  · rename_i text
    obtain ⟨⟨key, after⟩, taken, h⟩ := Option.bind_eq_some_iff.1 h
    have := length_takeText?_le taken
    dsimp only at h this
    split at h
    · rename_i others next
      cases h
      have := length_lt_of_skip next
      show others.length ≤ text.length + 1
      omega
    · cases h
  · cases h

namespace Numeral

theorem length_takeDigits (cs : List Char) :
    (Number.takeDigits cs).1.length + (Number.takeDigits cs).2.length = cs.length := by
  unfold Number.takeDigits
  rw [← List.length_append, List.takeWhile_append_dropWhile]

theorem length_takeDigits_lt {digits rest : List Char} (h : Number.takeDigits cs = (digits, rest))
    (some : digits ≠ []) : rest.length < cs.length := by
  have total := length_takeDigits cs
  have := List.length_pos_iff.2 some
  rw [h] at total
  dsimp only at total
  omega

theorem length_takeWhole?_lt {r : List Char × List Char} (h : takeWhole? cs = some r) : r.2.length < cs.length := by
  unfold takeWhole? at h
  split at h
  · cases h
  · rename_i rest taken
    cases h
    exact length_takeDigits_lt taken (List.cons_ne_nil _ _)
  · cases h
  · rename_i digits rest full _ _ taken
    cases h
    exact length_takeDigits_lt taken full

theorem length_takeFraction?_le {r : List Char × List Char} (h : takeFraction? cs = some r) :
    r.2.length ≤ cs.length := by
  unfold takeFraction? at h
  split at h
  · rename_i after
    split at h
    · cases h
    · rename_i digits rest _ taken
      cases h
      have total := length_takeDigits after
      rw [taken] at total
      dsimp only at total
      rw [List.length_cons]
      dsimp only
      omega
  · cases h
    exact Nat.le_refl _

theorem length_takeSign_le (cs : List Char) : (Number.takeSign cs).2.length ≤ cs.length := by
  unfold Number.takeSign
  split
  · exact Nat.le_succ _
  · exact Nat.le_succ _
  · exact Nat.le_refl _

theorem length_takeExponent?_le {r : Option (Bool × List Char) × List Char} (h : takeExponent? cs = some r) :
    r.2.length ≤ cs.length := by
  unfold takeExponent? at h
  split at h
  · rename_i c after
    split at h
    · have sign := length_takeSign_le after
      have total := length_takeDigits (Number.takeSign after).2
      dsimp only at h
      split at h
      · cases h
      · rename_i digits rest _ taken
        cases h
        rw [taken] at total
        rw [List.length_cons]
        dsimp only at total ⊢
        omega
    · cases h
      exact Nat.le_refl _
  · cases h
    exact Nat.le_refl _

theorem length_take?_lt {r : Numeral × List Char} (h : take? cs = some r) : r.2.length < cs.length := by
  unfold take? at h
  split at h
  rename_i negative unsigned sign
  have first : unsigned.length ≤ cs.length := by
    split at sign
    · cases sign
      exact Nat.le_succ _
    · cases sign
      exact Nat.le_refl _
  obtain ⟨⟨whole, rest⟩, taken, h⟩ := Option.bind_eq_some_iff.1 h
  obtain ⟨⟨fraction, rest'⟩, taken', h⟩ := Option.bind_eq_some_iff.1 h
  obtain ⟨⟨exponent, rest''⟩, taken'', h⟩ := Option.bind_eq_some_iff.1 h
  cases h
  have := length_takeWhole?_lt taken
  have := length_takeFraction?_le taken'
  have := length_takeExponent?_le taken''
  dsimp only at *
  omega

end Numeral

/-! ### How a value begins -/

theorem takeValue?_text (h : skip cs = '"' :: rest) :
    takeValue? (fuel + 1) cs = (takeText? rest).map fun r => (.string r.1, r.2) := by
  rw [takeValue?, h]
  rfl

theorem takeValue?_array (h : skip cs = '[' :: rest) (more : ∀ others, skip rest ≠ ']' :: others) :
    takeValue? (fuel + 1) cs = takeItems? fuel [] (skip rest) := by
  simp only [takeValue?, h]

theorem takeValue?_object (h : skip cs = '\x7b' :: rest) (more : ∀ others, skip rest ≠ '\x7d' :: others) :
    takeValue? (fuel + 1) cs = takeEntries? fuel [] (skip rest) := by
  simp only [takeValue?, h]

theorem takeValue?_number (noNull : ∀ others, skip cs ≠ 'n' :: 'u' :: 'l' :: 'l' :: others)
    (noTrue : ∀ others, skip cs ≠ 't' :: 'r' :: 'u' :: 'e' :: others)
    (noFalse : ∀ others, skip cs ≠ 'f' :: 'a' :: 'l' :: 's' :: 'e' :: others)
    (noText : ∀ others, skip cs ≠ '"' :: others) (noArray : ∀ others, skip cs ≠ '[' :: others)
    (noObject : ∀ others, skip cs ≠ '\x7b' :: others) :
    takeValue? (fuel + 1) cs = (Numeral.take? (skip cs)).map fun r => (.number r.1.number?, r.2) := by
  rw [takeValue?]
  split
  · exact absurd ‹_› (noNull _)
  · exact absurd ‹_› (noTrue _)
  · exact absurd ‹_› (noFalse _)
  · exact absurd ‹_› (noText _)
  · exact absurd ‹_› (noArray _)
  · exact absurd ‹_› (noObject _)
  · rfl

/-! ### Steps -/

/-- A reader that succeeds takes something off the front, and does so again with as many steps as it takes off
characters. -/
def Thrifty (read : Nat → List Char → Option (Json × List Char)) (fuel : Nat) : Prop :=
  ∀ cs r, read fuel cs = some r →
    r.2.length < cs.length ∧ ∀ more, cs.length ≤ r.2.length + more → read more cs = some r

theorem Thrifty.zero {read : Nat → List Char → Option (Json × List Char)} (nothing : ∀ cs, read 0 cs = none) :
    Thrifty read 0 := by
  intro cs r h
  rw [nothing cs] at h
  cases h

/-- A reader that takes something off has one step left at least. -/
theorem Thrifty.step {read : Nat → List Char → Option (Json × List Char)}
    (next : ∀ cs r, read (fuel + 1) cs = some r → r.2.length < cs.length ∧
      ∀ more, cs.length ≤ r.2.length + (more + 1) → read (more + 1) cs = some r) : Thrifty read (fuel + 1) := by
  intro cs r h
  obtain ⟨shorter, again⟩ := next cs r h
  refine ⟨shorter, fun more enough => ?_⟩
  cases more with
  | zero => exact absurd shorter (Nat.not_lt_of_le enough)
  | succ more => exact again more enough

/-- What is read in any number of steps is read again. -/
theorem again_of_all {read : Nat → List Char → Option (Json × List Char)} {r : Json × List Char}
    (h : read (fuel + 1) cs = some r) (r' : Json × List Char) (shorter : r'.2.length < cs.length)
    (all : ∀ n, read (n + 1) cs = some r') :
    r.2.length < cs.length ∧ ∀ more, cs.length ≤ r.2.length + (more + 1) → read (more + 1) cs = some r := by
  obtain rfl : r' = r := Option.some.inj ((all fuel).symm.trans h)
  exact ⟨shorter, fun more _ => all more⟩

/-- A word at the front, which stands for a value of its own. -/
theorem again_of_word {r : Json × List Char} (word : List Char) (value : Json)
    (h : takeValue? (fuel + 1) cs = some r) (next : skip cs = word ++ rest) (some : word ≠ [])
    (all : ∀ n, takeValue? (n + 1) cs = .some (value, rest)) :
    r.2.length < cs.length ∧ ∀ more, cs.length ≤ r.2.length + (more + 1) → takeValue? (more + 1) cs = .some r := by
  have shorter := length_skip_le cs
  have := List.length_pos_iff.2 some
  rw [next, List.length_append] at shorter
  exact again_of_all h (value, rest) (by dsimp only; omega) all

theorem thrifty_takeValue? (items : ∀ done, Thrifty (takeItems? · done) fuel)
    (entries : ∀ done, Thrifty (takeEntries? · done) fuel) : Thrifty takeValue? (fuel + 1) := by
  refine .step fun cs r h => ?_
  generalize size : fuel + 1 = steps at h
  fun_cases takeValue? steps cs with
  | case1 => cases size
  | case2 _ cs rest next =>
    cases size
    refine again_of_word ['n', 'u', 'l', 'l'] .null h next (by simp) fun n => ?_
    rw [takeValue?, next]
    rfl
  | case3 _ cs rest next =>
    cases size
    refine again_of_word ['t', 'r', 'u', 'e'] (.bool true) h next (by simp) fun n => ?_
    rw [takeValue?, next]
    rfl
  | case4 _ cs rest next =>
    cases size
    refine again_of_word ['f', 'a', 'l', 's', 'e'] (.bool false) h next (by simp) fun n => ?_
    rw [takeValue?, next]
    rfl
  | case5 _ cs rest next =>
    cases size
    have read := h
    rw [takeValue?_text next] at read
    obtain ⟨text, taken, -⟩ := Option.map_eq_some_iff.1 read
    have := length_lt_of_skip next
    have := length_takeText?_le taken
    refine again_of_all h (.string text.1, text.2) (by dsimp only; omega) fun n => ?_
    rw [takeValue?_text next, taken]
    rfl
  | case6 _ cs rest next others ends =>
    cases size
    have := length_lt_of_skip next
    have := length_lt_of_skip ends
    refine again_of_all h (.array [], others) (by dsimp only; omega) fun n => ?_
    simp only [takeValue?, next, ends]
  | case7 _ cs rest next more =>
    cases size
    rw [takeValue?_array next more] at h
    obtain ⟨shorter, again⟩ := items [] _ r h
    have := length_lt_of_skip next
    have := length_skip_le rest
    refine ⟨by omega, fun steps enough => ?_⟩
    rw [takeValue?_array next more]
    exact again steps (by omega)
  | case8 _ cs rest next others ends =>
    cases size
    have := length_lt_of_skip next
    have := length_lt_of_skip ends
    refine again_of_all h (.object [], others) (by dsimp only; omega) fun n => ?_
    simp only [takeValue?, next, ends]
  | case9 _ cs rest next more =>
    cases size
    rw [takeValue?_object next more] at h
    obtain ⟨shorter, again⟩ := entries [] _ r h
    have := length_lt_of_skip next
    have := length_skip_le rest
    refine ⟨by omega, fun steps enough => ?_⟩
    rw [takeValue?_object next more]
    exact again steps (by omega)
  | case10 _ cs noNull noTrue noFalse noText noArray noObject =>
    cases size
    have read := h
    rw [takeValue?_number noNull noTrue noFalse noText noArray noObject] at read
    obtain ⟨number, taken, -⟩ := Option.map_eq_some_iff.1 read
    have := length_skip_le cs
    have := Numeral.length_take?_lt taken
    refine again_of_all h (.number number.1.number?, number.2) (by dsimp only; omega) fun n => ?_
    rw [takeValue?_number noNull noTrue noFalse noText noArray noObject, taken]
    rfl

theorem thrifty_takeItems? (value : Thrifty takeValue? fuel) (items : ∀ done, Thrifty (takeItems? · done) fuel)
    (done : List Json) : Thrifty (takeItems? · done) (fuel + 1) := by
  refine .step fun cs r h => ?_
  rw [takeItems?] at h
  obtain ⟨⟨item, rest⟩, taken, h⟩ := Option.bind_eq_some_iff.1 h
  obtain ⟨shorter, again⟩ := value cs _ taken
  dsimp only at h shorter again
  split at h
  · rename_i others next
    obtain ⟨shorter', again'⟩ := items _ others r h
    have := length_lt_of_skip next
    refine ⟨by omega, fun more enough => ?_⟩
    rw [takeItems?, again more (by omega)]
    simp only [Option.bind_eq_bind, Option.bind_some, next]
    exact again' more (by omega)
  · rename_i others next
    cases h
    have := length_lt_of_skip next
    refine ⟨by dsimp only; omega, fun more enough => ?_⟩
    dsimp only at enough
    rw [takeItems?, again more (by omega)]
    simp only [Option.bind_eq_bind, Option.bind_some, next]
  · cases h

theorem thrifty_takeEntries? (value : Thrifty takeValue? fuel) (entries : ∀ done, Thrifty (takeEntries? · done) fuel)
    (done : List (Option String × Json)) : Thrifty (takeEntries? · done) (fuel + 1) := by
  refine .step fun cs r h => ?_
  rw [takeEntries?] at h
  obtain ⟨⟨key, after⟩, named, h⟩ := Option.bind_eq_some_iff.1 h
  obtain ⟨⟨item, rest⟩, taken, h⟩ := Option.bind_eq_some_iff.1 h
  have := length_skip_le cs
  have := length_takeKey?_le named
  obtain ⟨shorter, again⟩ := value after _ taken
  dsimp only at *
  split at h
  · rename_i others next
    obtain ⟨shorter', again'⟩ := entries _ others r h
    have := length_lt_of_skip next
    refine ⟨by omega, fun more enough => ?_⟩
    rw [takeEntries?, named]
    simp only [Option.bind_eq_bind, Option.bind_some, again more (by omega), next]
    exact again' more (by omega)
  · rename_i others next
    cases h
    have := length_lt_of_skip next
    refine ⟨by dsimp only; omega, fun more enough => ?_⟩
    dsimp only at enough
    rw [takeEntries?, named]
    simp only [Option.bind_eq_bind, Option.bind_some, again more (by omega), next]
  · cases h

theorem thrifty_take (fuel : Nat) :
    Thrifty takeValue? fuel ∧ (∀ done, Thrifty (takeItems? · done) fuel) ∧
      ∀ done, Thrifty (takeEntries? · done) fuel := by
  induction fuel with
  | zero => exact ⟨.zero fun _ => rfl, fun _ => .zero fun _ => rfl, fun _ => .zero fun _ => rfl⟩
  | succ fuel ih =>
    obtain ⟨value, items, entries⟩ := ih
    exact ⟨thrifty_takeValue? items entries, thrifty_takeItems? value items, thrifty_takeEntries? value entries⟩

/-- The length of a text is enough steps. -/
theorem takeValue?_enough {n m : Nat} (hn : cs.length ≤ n) (hm : cs.length ≤ m) :
    takeValue? n cs = takeValue? m cs := by
  have one {n m : Nat} (hm : cs.length ≤ m) (r : Json × List Char) (h : takeValue? n cs = some r) :
      takeValue? m cs = some r :=
    ((thrifty_take n).1 cs r h).2 m (Nat.le_trans hm (Nat.le_add_left ..))
  exact Option.ext fun r => ⟨one hm r, one hn r⟩

end MetricFeed.Json
