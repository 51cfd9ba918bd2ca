import MetricFeed.Proofs.JsonSteps

/-!
# A carriage return at the end

A carriage return at the end of a text is left over by whatever reads a part of a JSON document off its front
(`Json.leaves_take`), and after a document it is a blank.  So it makes no difference to what is read
(`Json.read?_trail`).
-/

namespace MetricFeed.Json

/-- What a reader gives, with a carriage return after what follows. -/
def trailed {α : Type} (r : Option (α × List Char)) : Option (α × List Char) :=
  r.map fun r => (r.1, r.2 ++ ['\r'])

@[simp] theorem trailed_none {α : Type} : trailed (none : Option (α × List Char)) = none := rfl

@[simp] theorem trailed_some {α : Type} (r : α × List Char) : trailed (some r) = some (r.1, r.2 ++ ['\r']) := rfl

/-- The reader reads the same with a carriage return at the end of the text, and leaves that over. -/
def Leaves {α : Type} (read : List Char → Option (α × List Char)) : Prop :=
  ∀ cs, read (cs ++ ['\r']) = trailed (read cs)

/-- A word without a carriage return that stands at the front of a text with one at the end stands there without it. -/
theorem eq_append_of_trail {word cs rest : List Char} (free : '\r' ∉ word) (h : cs ++ ['\r'] = word ++ rest) :
    ∃ rest', cs = word ++ rest' := by
  rcases List.append_eq_append_iff.1 h with ⟨middle, rfl, last⟩ | ⟨middle, rfl, -⟩
  · cases middle with
    | nil => exact ⟨[], by simp⟩
    | cons c middle =>
      have first := (List.cons.inj last).1
      subst first
      exact absurd (by simp) free
  · exact ⟨middle, rfl⟩

/-! ### Strings -/

namespace Literal

theorem leaves_take? (done : List Piece) : Leaves (take? done) := by
  intro cs
  fun_induction take? done cs with
  | case1 => rfl
  | case2 done a b c d cs n h ih => simp [take?, h, ih]
  | case3 done a b c d cs h => simp [take?, h]
  | case4 done c cs _ x h ih =>
    have notUnit : c ≠ 'u' := by
      rintro rfl
      cases h
    rw [List.cons_append, List.cons_append, take?.eq_3 _ _ _ fun _ _ _ _ _ eq _ => notUnit eq, h]
    exact ih
  | case5 done c cs short h =>
    by_cases isUnit : c = 'u'
    · subst isUnit
      match cs, short with
      | [], _ => rfl
      | [_], _ => rfl
      | [_, _], _ => rfl
      | [a, b, c], _ =>
        have noHex : Text.ofHex? [a, b, c, '\r'] = none := by
          simp [Text.ofHex?, Text.hexDigit?]
        rw [List.cons_append, List.cons_append, List.cons_append, List.cons_append, List.cons_append, List.nil_append,
          take?, noHex]
        rfl
      | a :: b :: c :: d :: cs, short => exact absurd rfl (short a b c d cs rfl)
    · rw [List.cons_append, List.cons_append, take?.eq_3 _ _ _ fun _ _ _ _ _ eq _ => isUnit eq, h]
      rfl
  | case6 done c cs notQuote notUnit notEscape bad => 
    by_cases escape : c = '\\'
    · subst escape
      cases cs with
      | nil => rfl
      | cons c cs => exact absurd rfl (notEscape c cs rfl)
    · rw [List.cons_append, take?.eq_4 _ _ _ notQuote (fun _ _ _ _ _ eq _ => escape eq) (fun _ _ eq _ => escape eq),
        if_pos bad]
      rfl
  | case7 done c cs notQuote notUnit notEscape good ih =>
    have escape : c ≠ '\\' := by
      rintro rfl
      exact good rfl
    rw [List.cons_append, take?.eq_4 _ _ _ notQuote (fun _ _ _ _ _ eq _ => escape eq) (fun _ _ eq _ => escape eq),
      if_neg good]
    exact ih
  | case8 => rfl

end Literal

/-! ### Numerals -/

theorem trailed_bind {α β : Type} (r : Option (α × List Char)) {f g : α × List Char → Option (β × List Char)}
    (h : ∀ a rest, f (a, rest ++ ['\r']) = trailed (g (a, rest))) : (trailed r).bind f = trailed (r.bind g) := by
  cases r with
  | none => rfl
  | some r => exact h r.1 r.2

namespace Numeral

theorem takeDigits_trail (cs : List Char) :
    Number.takeDigits (cs ++ ['\r']) = ((Number.takeDigits cs).1, (Number.takeDigits cs).2 ++ ['\r']) := by
  unfold Number.takeDigits
  induction cs with
  | nil => rfl
  | cons c cs ih =>
    by_cases digit : c.isDigit = true
    · simp only [List.cons_append, List.takeWhile_cons_of_pos digit, List.dropWhile_cons_of_pos digit]
      rw [Prod.mk.injEq] at ih
      rw [ih.1, ih.2]
    · simp only [List.cons_append, List.takeWhile_cons_of_neg digit, List.dropWhile_cons_of_neg digit]

theorem leaves_takeWhole? : Leaves takeWhole? := by
  intro cs
  unfold takeWhole?
  rw [takeDigits_trail]
  generalize Number.takeDigits cs = taken
  obtain ⟨digits, rest⟩ := taken
  dsimp only
  split <;> simp_all

theorem takeSign_trail (cs : List Char) :
    Number.takeSign (cs ++ ['\r']) = ((Number.takeSign cs).1, (Number.takeSign cs).2 ++ ['\r']) := by
  fun_cases Number.takeSign cs with
  | case1 => rfl
  | case2 => rfl
  | case3 cs noMinus noPlus =>
    cases cs with
    | nil => rfl
    | cons c cs =>
      exact Number.takeSign.eq_3 _ (fun _ eq => noMinus cs (by rw [(List.cons.inj eq).1]))
        fun _ eq => noPlus cs (by rw [(List.cons.inj eq).1])

theorem leaves_takeFraction? : Leaves takeFraction? := by
  intro cs
  cases cs with
  | nil => rfl
  | cons c cs =>
    by_cases point : c = '.'
    · subst point
      rw [List.cons_append, takeFraction?, takeFraction?, takeDigits_trail]
      generalize Number.takeDigits cs = taken
      obtain ⟨digits, rest⟩ := taken
      cases digits <;> rfl
    · have none (cs : List Char) : takeFraction? (c :: cs) = some ([], c :: cs) :=
        takeFraction?.eq_2 _ fun _ eq => point (List.cons.inj eq).1
      rw [List.cons_append, none, none]
      rfl

theorem leaves_takeExponent? : Leaves takeExponent? := by
  intro cs
  cases cs with
  | nil => rfl
  | cons c cs =>
    rw [List.cons_append, takeExponent?, takeExponent?]
    split
    · rw [takeSign_trail]
      dsimp only
      rw [takeDigits_trail]
      generalize Number.takeDigits (Number.takeSign cs).2 = taken
      obtain ⟨digits, rest⟩ := taken
      cases digits <;> rfl
    · rfl

theorem leaves_take? : Leaves take? := by
  intro cs
  have rest (negative : Bool) (cs : List Char) :
      ((takeWhole? (cs ++ ['\r'])).bind fun r => (takeFraction? r.2).bind fun r' =>
        (takeExponent? r'.2).bind fun r'' => some ((⟨negative, r.1, r'.1, r''.1⟩ : Numeral), r''.2)) =
      trailed ((takeWhole? cs).bind fun r => (takeFraction? r.2).bind fun r' =>
        (takeExponent? r'.2).bind fun r'' => some ((⟨negative, r.1, r'.1, r''.1⟩ : Numeral), r''.2)) := by
    rw [leaves_takeWhole?]
    refine trailed_bind _ fun whole cs => ?_
    dsimp only
    rw [leaves_takeFraction?]
    refine trailed_bind _ fun fraction cs => ?_
    dsimp only
    rw [leaves_takeExponent?]
    exact trailed_bind _ fun exponent cs => rfl
  cases cs with
  | nil => rfl
  | cons c cs =>
    by_cases minus : c = '-'
    · subst minus
      exact rest true cs
    · have unsigned (cs : List Char) := take?.eq_2 (c :: cs) fun _ eq => minus (List.cons.inj eq).1
      rw [List.cons_append, unsigned, unsigned]
      exact rest false (c :: cs)

end Numeral

/-! ### Values -/

theorem skip_trail {cs : List Char} {c : Char} {rest : List Char} (h : skip cs = c :: rest) :
    skip (cs ++ ['\r']) = c :: (rest ++ ['\r']) := by
  unfold skip at h ⊢
  rw [List.dropWhile_append, h]
  rfl

theorem skip_trail_nil {cs : List Char} (h : skip cs = []) : skip (cs ++ ['\r']) = [] := by
  unfold skip at h ⊢
  rw [List.dropWhile_append, h]
  rfl

theorem leaves_takeText? : Leaves takeText? := by
  intro cs
  unfold takeText? trailed
  rw [Literal.leaves_take?, trailed, Option.map_map, Option.map_map]
  rfl

theorem leaves_takeKey? : Leaves takeKey? := by
  intro cs
  cases cs with
  | nil => rfl
  | cons c cs =>
    by_cases quote : c = '"'
    · subst quote
      rw [List.cons_append, takeKey?, takeKey?, leaves_takeText?]
      refine trailed_bind _ fun key rest => ?_
      dsimp only
      cases next : skip rest with
      | nil =>
        rw [skip_trail_nil next]
        rfl
      | cons d rest' =>
        rw [skip_trail next]
        by_cases colon : d = ':'
        · subst colon
          rfl
        · split <;> simp_all
    · have none (cs : List Char) : takeKey? (c :: cs) = none :=
        takeKey?.eq_2 _ fun _ eq => quote (List.cons.inj eq).1
      rw [List.cons_append, none, none]
      rfl

/-- What does not stand at the front of a text does not stand there with a carriage return at the end. -/
theorem skip_trail_ne (word : List Char) {cs : List Char} (free : '\r' ∉ word) (full : word ≠ [])
    (h : ∀ rest, skip cs ≠ word ++ rest) (rest : List Char) : skip (cs ++ ['\r']) ≠ word ++ rest := by
  intro front
  cases next : skip cs with
  | nil =>
    rw [skip_trail_nil next] at front
    exact full (List.append_eq_nil_iff.1 front.symm).1
  | cons c others =>
    rw [skip_trail next, ← List.cons_append, ← next] at front
    obtain ⟨rest', there⟩ := eq_append_of_trail free front
    exact h rest' there

variable {fuel : Nat}

theorem takeValue?_of_skip {cs : List Char} (nothing : skip cs = []) (fuel : Nat) : takeValue? fuel cs = none := by
  cases fuel with
  | zero => rfl
  | succ fuel =>
    rw [takeValue?, nothing]
    rfl

theorem takeItems?_nil (fuel : Nat) (done : List Json) : takeItems? fuel done [] = none := by
  cases fuel with
  | zero => rfl
  | succ fuel =>
    rw [takeItems?, takeValue?_of_skip rfl]
    rfl

theorem takeEntries?_nil (fuel : Nat) (done : List (Option String × Json)) : takeEntries? fuel done [] = none := by
  cases fuel <;> rfl

/-- A reader that reads nothing of nothing, after the blanks. -/
theorem after_skip_trail {α : Type} {read : List Char → Option (α × List Char)} (nothing : read [] = none)
    (h : Leaves read) (cs : List Char) : read (skip (cs ++ ['\r'])) = trailed (read (skip cs)) := by
  cases next : skip cs with
  | nil =>
    rw [skip_trail_nil next, nothing]
    rfl
  | cons c rest =>
    rw [skip_trail next, ← List.cons_append, h]

theorem leaves_takeValue? (items : ∀ done, Leaves (takeItems? fuel done))
    (entries : ∀ done, Leaves (takeEntries? fuel done)) : Leaves (takeValue? (fuel + 1)) := by
  intro cs
  generalize size : fuel + 1 = steps
  fun_cases takeValue? steps cs with
  | case1 => cases size
  | case2 _ cs rest next =>
    cases size
    rw [takeValue?, skip_trail next]
    rfl
  | case3 _ cs rest next =>
    cases size
    rw [takeValue?, skip_trail next]
    rfl
  | case4 _ cs rest next =>
    cases size
    rw [takeValue?, skip_trail next]
    rfl
  | case5 _ cs rest next =>
    cases size
    rw [takeValue?_text (skip_trail next), leaves_takeText?]
    cases takeText? rest <;> rfl
  | case6 _ cs rest next others ends =>
    cases size
    simp only [takeValue?, skip_trail next, skip_trail ends]
    rfl
  | case7 _ cs rest next more =>
    cases size
    rw [takeValue?_array (skip_trail next) (skip_trail_ne [']'] (by decide) (by decide) more)]
    exact after_skip_trail (takeItems?_nil fuel []) (items []) rest
  | case8 _ cs rest next others ends =>
    cases size
    simp only [takeValue?, skip_trail next, skip_trail ends]
    rfl
  | case9 _ cs rest next more =>
    cases size
    rw [takeValue?_object (skip_trail next) (skip_trail_ne ['\x7d'] (by decide) (by decide) more)]
    exact after_skip_trail (takeEntries?_nil fuel []) (entries []) rest
  | case10 _ cs noNull noTrue noFalse noText noArray noObject =>
    cases size
    rw [takeValue?_number (skip_trail_ne ['n', 'u', 'l', 'l'] (by decide) (by decide) noNull)
      (skip_trail_ne ['t', 'r', 'u', 'e'] (by decide) (by decide) noTrue)
      (skip_trail_ne ['f', 'a', 'l', 's', 'e'] (by decide) (by decide) noFalse)
      (skip_trail_ne ['"'] (by decide) (by decide) noText)
      (skip_trail_ne ['['] (by decide) (by decide) noArray)
      (skip_trail_ne ['\x7b'] (by decide) (by decide) noObject),
      after_skip_trail rfl Numeral.leaves_take?]
    cases Numeral.take? (skip cs) <;> rfl

theorem leaves_takeItems? (value : Leaves (takeValue? fuel)) (items : ∀ done, Leaves (takeItems? fuel done))
    (done : List Json) : Leaves (takeItems? (fuel + 1) done) := by
  intro cs
  rw [takeItems?, takeItems?, value]
  refine trailed_bind _ fun item rest => ?_
  dsimp only
  cases next : skip rest with
  | nil =>
    rw [skip_trail_nil next]
    rfl
  | cons c rest' =>
    rw [skip_trail next]
    by_cases comma : c = ','
    · subst comma
      exact items _ rest'
    · by_cases ends : c = ']'
      · subst ends
        rfl
      · simp [comma, ends]

theorem leaves_takeEntries? (value : Leaves (takeValue? fuel)) (entries : ∀ done, Leaves (takeEntries? fuel done))
    (done : List (Option String × Json)) : Leaves (takeEntries? (fuel + 1) done) := by
  intro cs
  rw [takeEntries?, takeEntries?, after_skip_trail rfl leaves_takeKey?]
  refine trailed_bind _ fun key rest => ?_
  dsimp only
  rw [value]
  refine trailed_bind _ fun item rest => ?_
  dsimp only
  cases next : skip rest with
  | nil =>
    rw [skip_trail_nil next]
    rfl
  | cons c rest' =>
    rw [skip_trail next]
    by_cases comma : c = ','
    · subst comma
      exact entries _ rest'
    · by_cases ends : c = '\x7d'
      · subst ends
        rfl
      · simp [comma, ends]

theorem leaves_take (fuel : Nat) :
    Leaves (takeValue? fuel) ∧ (∀ done, Leaves (takeItems? fuel done)) ∧ ∀ done, Leaves (takeEntries? fuel done) := by
  induction fuel with
  | zero => exact ⟨fun _ => rfl, fun _ _ => rfl, fun _ _ => rfl⟩
  | succ fuel ih =>
    obtain ⟨value, items, entries⟩ := ih
    exact ⟨leaves_takeValue? items entries, leaves_takeItems? value items, leaves_takeEntries? value entries⟩

/-- A carriage return after a document makes no difference. -/
theorem read?_trail (cs : List Char) : read? (String.ofList (cs ++ ['\r'])) = read? (String.ofList cs) := by
  unfold read?
  rw [String.toList_ofList, String.toList_ofList, (leaves_take _).1 cs,
    takeValue?_enough (n := (String.ofList (cs ++ ['\r'])).length + 1) (m := (String.ofList cs).length + 1)
      (by simp; omega) (by simp)]
  cases takeValue? ((String.ofList cs).length + 1) cs with
  | none => rfl
  | some r =>
    obtain ⟨value, rest⟩ := r
    rw [trailed_some]
    dsimp only
    cases next : skip rest with
    | nil => rw [skip_trail_nil next]
    | cons c others =>
      rw [skip_trail next]
      rfl

end MetricFeed.Json
