import MetricFeed.Proofs.Lines
import MetricFeed.Proofs.Numerals

/-!
# Values in lines

A value stands in its line without quotes.  Its text is never empty and holds nothing that a reader could take for the
end of the field, so the field ends at the space behind it (`value_ends_at_space`).  A value that counts is written,
without a rate, as the canonical numeral of its number (`Value.isNumeral_text`), of which there is one for each whole
number (`IsNumeral.unique`).
-/

namespace MetricFeed

/-! ### Canonical numerals -/

open Number (IsDigits digitsValue)

/-- The canonical numeral of a whole number: its digits, without a zero in front of them, behind a minus sign if the
number is below zero. -/
def IsNumeral (i : Int) (s : String) : Prop :=
  ∃ ds, s.toList = (if i < 0 then ['-'] else []) ++ ds ∧ IsDigits ds ∧ ds ≠ [] ∧ (ds.head? = some '0' → ds = ['0']) ∧
    digitsValue ds = i.natAbs

section

variable {i : Int} {s t : String}

theorem isNumeral_iff : IsNumeral i s ↔ s.toList = (if i < 0 then ['-'] else []) ++ Nat.toDigits 10 i.natAbs := by
  constructor
  · rintro ⟨ds, shape, digits, some, lead, value⟩
    rw [shape, ← value, Number.toDigits_digitsValue digits some lead]
  · intro shape
    exact ⟨_, shape, .toDigits _, Nat.toDigits_ne_nil, Number.head?_toDigits _, Number.digitsValue_toDigits _⟩

theorem IsNumeral.unique (hs : IsNumeral i s) (ht : IsNumeral i t) : s = t := by
  rw [← String.toList_inj, isNumeral_iff.1 hs, isNumeral_iff.1 ht]

theorem isNumeral_toString_nat (n : Nat) : IsNumeral n (toString n) := by
  rw [isNumeral_iff, if_neg (by omega), Nat.toString_eq_repr, Nat.toList_repr]
  rfl

theorem isNumeral_toString (i : Int) : IsNumeral i (toString i) := by
  cases i with
  | ofNat n => exact isNumeral_toString_nat n
  | negSucc n =>
    rw [isNumeral_iff, if_pos (Int.negSucc_lt_zero n), toList_toString_negSucc, Nat.toString_eq_repr, Nat.toList_repr]
    rfl

end

/-- The whole number that a value counts. -/
def Value.integer? : Value → Option Int
  | .gauge _ => none
  | .counter n => some n.toNat
  | .derive n => some n.toInt
  | .absolute n => some n.toNat

theorem Value.isNumeral_text {v : Value} {i : Int} (h : v.integer? = some i) : IsNumeral i (v.text none) := by
  cases v with
  | gauge x => cases h
  | counter n =>
    cases h
    exact isNumeral_toString_nat n.toNat
  | derive n =>
    cases h
    exact isNumeral_toString n.toInt
  | absolute n =>
    cases h
    exact isNumeral_toString_nat n.toNat

/-! ### Texts of values -/

namespace Number.Layout

theorem positionalText_ne_nil (wholeEnd cs : List Char) (lead : Int) : positionalText wholeEnd cs lead ≠ [] := by
  unfold positionalText
  dsimp only
  split
  · exact List.cons_ne_nil _ _
  · split
    · -- the whole part is as long as its leading exponent asks for, even without a digit
      intro none
      have length := congrArg List.length none
      simp only [List.length_append, List.length_replicate, List.length_nil] at length
      omega
    · exact List.append_ne_nil_of_right_ne_nil _ (List.cons_ne_nil _ _)

theorem scientificText_ne_nil (width : Nat) (cs : List Char) (lead : Int) : scientificText width cs lead ≠ [] :=
  List.append_ne_nil_of_right_ne_nil _ (List.cons_ne_nil _ _)

theorem sizeText_ne_nil (l : Layout) (v : Float) : l.sizeText v ≠ [] := by
  unfold sizeText figuresText
  dsimp only
  split
  · exact List.cons_ne_nil _ _
  · split
    · exact List.cons_ne_nil _ _
    · split
      · exact positionalText_ne_nil _ _ _
      · exact scientificText_ne_nil _ _ _

theorem text_ne_empty {l : Layout} (nan : l.nan ≠ "") (v : Float) : l.text v ≠ "" := by
  unfold text
  split
  · exact nan
  · intro empty
    rw [String.ofList_eq_empty_iff] at empty
    split at empty
    · cases empty
    · exact l.sizeText_ne_nil v empty

end Number.Layout

theorem IsNumeral.ne_empty {i : Int} {s : String} (h : IsNumeral i s) : s ≠ "" := by
  rintro rfl
  obtain ⟨ds, shape, -, some, -⟩ := h
  exact List.append_ne_nil_of_right_ne_nil _ some shape.symm

namespace IsValueText

variable {t : String}

theorem ne_empty (h : IsValueText t) : t ≠ "" := by
  cases h with
  | ofValue v rate =>
    unfold Value.text
    split
    · exact Number.Layout.text_ne_empty (by decide) _
    · exact Number.Layout.text_ne_empty (by decide) _
    · exact (isNumeral_toString_nat _).ne_empty
    · exact (isNumeral_toString _).ne_empty
    · exact (isNumeral_toString_nat _).ne_empty
  | inverted s => exact Number.Layout.text_ne_empty (by decide) _

theorem space_not_mem (h : IsValueText t) : ' ' ∉ t.toList :=
  fun space => absurd (h.unbroken ' ' space) (by decide)

end IsValueText

/-- The characters at which a text can go on in another line. -/
def Text.lineBreaks : List Char :=
  ['\n', '\x0b', '\x0c', '\r', '\u0085', '\u2028', '\u2029']

theorem Text.isBlank_of_mem_lineBreaks {c : Char} (h : c ∈ lineBreaks) : isBlank c = true := by
  simp only [lineBreaks, List.mem_cons, List.not_mem_nil, or_false] at h
  rcases h with rfl | rfl | rfl | rfl | rfl | rfl | rfl <;> decide

theorem Unbroken.apart {cs : List Char} (h : Unbroken cs) {c : Char} (mem : c ∈ cs) :
    Text.isBlank c = false ∧ c ≠ '"' ∧ c ≠ '=' ∧ c ∉ Text.lineBreaks := by
  have sound := h c mem
  simp only [Command.breaksToken, Bool.or_eq_false_iff, beq_eq_false_iff_ne] at sound
  obtain ⟨⟨blank, quote⟩, equals⟩ := sound
  refine ⟨blank, quote, equals, fun line => ?_⟩
  rw [Text.isBlank_of_mem_lineBreaks line] at blank
  cases blank

/-! ### Lines of series -/

namespace Command

/-- The value of a series stands between the equals sign behind the name and a space. -/
theorem toList_line_series {entity name value : String} {tags : Tags} {time : Nat} {line : String}
    (h : (series entity name value tags time).line = .ok line) :
    ∃ e m after, quoted entity = .ok e ∧ quoted name = .ok m ∧
      line.toList = ("series e:" ++ e ++ " m:" ++ m ++ "=").toList ++ (value.toList ++ ' ' :: after) := by
  obtain ⟨e, he, h⟩ := of_bind_eq_ok h
  obtain ⟨m, hm, h⟩ := of_bind_eq_ok h
  obtain ⟨tagText, ht, h⟩ := of_bind_eq_ok h
  cases h
  obtain ⟨after, shape, -, -⟩ :=
    takeTags?_tagsText ht ('m' :: 's' :: ':' :: (Nat.toDigits 10 time ++ [' ', '\n'])) (by simp [skip?])
  refine ⟨e, m, after, he, hm, ?_⟩
  rw [← shape]
  simp

end Command

/-- The text of a value is never empty and holds no blank, no quote, no equals sign and no line break.  So the value in
the line of a series is what stands up to the next space, and the series is read back as it is, whatever follows the
line; in a run every accepted line that carries a value carries such a text.  A value that counts is, without a rate,
the one canonical numeral of its number. -/
theorem value_ends_at_space :
    (∀ t, IsValueText t → t ≠ "" ∧
      ∀ c ∈ t.toList, Text.isBlank c = false ∧ c ≠ '"' ∧ c ≠ '=' ∧ c ∉ Text.lineBreaks) ∧
    (∀ entity name t tags time line, IsValueText t → (Command.series entity name t tags time).line = .ok line →
      (∃ e m after, Command.quoted entity = .ok e ∧ Command.quoted name = .ok m ∧
        line.toList = ("series e:" ++ e ++ " m:" ++ m ++ "=").toList ++ (t.toList ++ ' ' :: after) ∧
        Command.takeWord? ' ' (t.toList ++ ' ' :: after) = some (t, after)) ∧
      ∀ rest, Command.take? (line.toList ++ rest) = some (.series entity name t tags time, rest)) ∧
    (∀ (s : Settings) (network : Network) (now wall : Int) (machine : HostAnswer) (calls : List (Call Writer.Op)),
      ∀ line ∈ (Writer.course s network now wall machine calls).world.acceptedLines,
        ∃ c : Command, c.Measures ∧ c.line = .ok line) ∧
    ∀ (v : Value) (i : Int), v.integer? = some i →
      IsNumeral i (v.text none) ∧ ∀ t, IsNumeral i t → t = v.text none := by
  refine ⟨?_, ?_, ?_, ?_⟩
  · intro t h
    exact ⟨h.ne_empty, fun c mem => h.unbroken.apart mem⟩
  · intro entity name t tags time line h rendered
    refine ⟨?_, Command.take?_line rendered h.space_not_mem⟩
    obtain ⟨e, m, after, he, hm, shape⟩ := Command.toList_line_series rendered
    exact ⟨e, m, after, he, hm, shape, Command.takeWord?_append h.space_not_mem after⟩
  · intro s network now wall machine calls line accepted
    obtain ⟨c, drafted, rendered⟩ := Writer.drafted_of_accepted s network now wall machine calls accepted
    exact ⟨c, drafted.measures, rendered⟩
  · intro v i counts
    have numeral := Value.isNumeral_text counts
    exact ⟨numeral, fun t other => other.unique numeral⟩

/-- The least whole number of 64 bits, before a tag that looks like more of it. -/
theorem value_ends_at_space_least :
    let v : Value := .derive (-9223372036854775808)
    let t := "-9223372036854775808"
    let c : Command := .series "h" "m=1" t [⟨"5", "=5 "⟩] 7
    let line := "series e:\"h\" m:\"m=1\"=-9223372036854775808 t:\"5\"=\"=5 \" ms:7 \n"
    IsValueText t ∧ v.integer? = some (-9223372036854775808) ∧ IsNumeral (-9223372036854775808) t ∧
      c.line = .ok line ∧ Command.take? line.toList = some (c, []) := by
  intro v t c line
  have text : v.text none = t := by decide
  have valueText : IsValueText t := text ▸ .ofValue v none
  have counts : v.integer? = some (-9223372036854775808) := by decide
  have rendered : c.line = .ok line := by decide
  obtain ⟨-, fields, -, numerals⟩ := value_ends_at_space
  have read := (fields _ _ _ _ _ _ valueText rendered).2 []
  rw [List.append_nil] at read
  exact ⟨valueText, counts, text ▸ (numerals v _ counts).1, rendered, read⟩

end MetricFeed
