import MetricFeed.Command.Reader
import MetricFeed.SeriesKey

/-!
# Reading a stream of commands back

The lines of any commands, put one after the other, are read back as these commands (`Command.readAll?_join`), so no
two lists of commands have the same text.  Every part of a line is read back whatever follows it, as long as the next
character does not continue it; a quoted field may hold anything, a value only must not hold a space.
-/

namespace MetricFeed.Command

/-! ### Parts of a line -/

theorem takeField?_quoted {s text : String} (h : quoted s = .ok text) (rest : List Char)
    (next : rest.head? ≠ some '"') : takeField? (text.toList ++ rest) = some (s, rest) := by
  unfold quoted quoteField at h
  dsimp only at h
  split at h
  · rename_i body hb
    split at hb
    · cases hb
    · cases hb
      cases h
      have shape : ("\"" ++ String.ofList (Text.Quoted.body s.toList) ++ "\"").toList ++ rest =
          '"' :: (Text.Quoted.body s.toList ++ '"' :: rest) := by simp
      rw [shape]
      simp [takeField?, skip?, Text.Quoted.take?_body s.toList next]
  · cases h

theorem takeWord?_append {word : String} {stop : Char} (h : stop ∉ word.toList) (rest : List Char) :
    takeWord? stop (word.toList ++ stop :: rest) = some (word, rest) := by
  unfold takeWord?
  rw [Text.cut?_append_cons h]
  simp

theorem takeNumber?_toDigits (n : Nat) (rest : List Char) :
    takeNumber? (Nat.toDigits 10 n ++ ' ' :: rest) = some (n, rest) := by
  have all : ∀ c ∈ Nat.toDigits 10 n, c.isDigit = true :=
    fun c hc => Nat.isDigit_of_mem_toDigits (by decide) (by decide) hc
  have noSpace : ' ' ∉ Nat.toDigits 10 n := fun hs => absurd (all ' ' hs) (by decide)
  have value : Number.digitsValue (Nat.toDigits 10 n) = n := Nat.ofDigitChars_ten_toDigits
  unfold takeNumber?
  rw [Text.cut?_append_cons noSpace]
  simp only [Option.bind_eq_bind, Option.bind_some]
  rw [List.all_eq_true.2 all, value]
  simp [Nat.toDigits_ne_nil]

/-- A bare token is the text itself, and nothing in it breaks a token. -/
theorem bare_eq_ok {s text : String} (h : bare s = .ok text) : text = s ∧ ∀ c ∈ s.toList, breaksToken c = false := by
  unfold bare at h
  split at h
  · cases h
  · rename_i sound
    cases h
    refine ⟨rfl, fun c hc => ?_⟩
    simp only [Bool.or_eq_true, List.any_eq_true, not_or, not_exists, not_and, Bool.not_eq_true] at sound
    exact sound.2 c hc

theorem of_bind_eq_ok {ε α β : Type} {x : Except ε α} {f : α → Except ε β} {b : β}
    (h : (x >>= f) = .ok b) : ∃ a, x = .ok a ∧ f a = .ok b := by
  cases x with
  | error e => cases h
  | ok a => exact ⟨a, rfl, h⟩

/-! ### Tags and values -/

/-- Tags are read from behind the space before them up to the space behind them. -/
theorem takeTags?_tagsText {tags : Tags} {text : String} (h : tagsText tags = .ok text) (rest : List Char)
    (next : skip? ['t', ':'] rest = none) :
    ∃ cs, text.toList ++ ' ' :: rest = ' ' :: cs ∧ tags.length ≤ cs.length ∧
      ∀ fuel, tags.length < fuel → takeTags? fuel cs = some (tags, rest) := by
  induction tags generalizing text with
  | nil =>
    cases h
    refine ⟨rest, rfl, Nat.zero_le _, fun fuel enough => ?_⟩
    cases fuel with
    | zero => exact absurd enough (Nat.not_lt_zero _)
    | succ fuel => rw [takeTags?, next]
  | cons t ts ih =>
    obtain ⟨key, hk, h⟩ := of_bind_eq_ok h
    obtain ⟨value, hv, h⟩ := of_bind_eq_ok h
    obtain ⟨tail, ht, h⟩ := of_bind_eq_ok h
    cases h
    -- the space in front of the next tag is the one that ends this tag
    obtain ⟨cs, shape, length, read⟩ := ih ht
    refine ⟨'t' :: ':' :: (key.toList ++ '=' :: (value.toList ++ ' ' :: cs)), ?_, ?_, fun fuel enough => ?_⟩
    · rw [← shape]
      simp
    · simp only [List.length_cons, List.length_append]
      omega
    · cases fuel with
      | zero => exact absurd enough (Nat.not_lt_zero _)
      | succ fuel =>
        have first := takeField?_quoted hk ('=' :: (value.toList ++ ' ' :: cs)) (by simp)
        have second := takeField?_quoted hv (' ' :: cs) (by simp)
        simp [takeTags?, skip?, first, second, read fuel (Nat.lt_of_succ_lt_succ enough)]

/-- Values are read from behind the space before them up to the space behind them. -/
theorem takeValues?_valuesText {values : List (String × String)} {text : String} (h : valuesText values = .ok text)
    (rest : List Char) (next : skip? ['v', ':'] rest = none) :
    ∃ cs, text.toList ++ ' ' :: rest = ' ' :: cs ∧ values.length ≤ cs.length ∧
      ∀ fuel, values.length < fuel → takeValues? fuel cs = some (values, rest) := by
  induction values generalizing text with
  | nil =>
    cases h
    refine ⟨rest, rfl, Nat.zero_le _, fun fuel enough => ?_⟩
    cases fuel with
    | zero => exact absurd enough (Nat.not_lt_zero _)
    | succ fuel => rw [takeValues?, next]
  | cons v vs ih =>
    obtain ⟨key, hk, h⟩ := of_bind_eq_ok h
    obtain ⟨value, hv, h⟩ := of_bind_eq_ok h
    obtain ⟨tail, ht, h⟩ := of_bind_eq_ok h
    cases h
    obtain ⟨rfl, sound⟩ := bare_eq_ok hk
    obtain ⟨cs, shape, length, read⟩ := ih ht
    refine ⟨'v' :: ':' :: (v.1.toList ++ '=' :: (value.toList ++ ' ' :: cs)), ?_, ?_, fun fuel enough => ?_⟩
    · rw [← shape]
      simp
    · simp only [List.length_cons, List.length_append]
      omega
    · cases fuel with
      | zero => exact absurd enough (Nat.not_lt_zero _)
      | succ fuel =>
        have noEquals : '=' ∉ v.1.toList := fun he => absurd (sound '=' he) (by decide)
        have first := takeWord?_append noEquals (value.toList ++ ' ' :: cs)
        have second := takeField?_quoted hv (' ' :: cs) (by simp)
        simp [takeValues?, skip?, first, second, read fuel (Nat.lt_of_succ_lt_succ enough)]

/-! ### Lines -/

/-- The value of a series holds no space. -/
def Plain : Command → Prop
  | series _ _ value _ _ => ' ' ∉ value.toList
  | _ => True

instance (c : Command) : Decidable c.Plain :=
  match c with
  | series _ _ value _ _ => inferInstanceAs (Decidable (' ' ∉ value.toList))
  | metric _ _ => isTrue trivial
  | property _ _ _ _ => isTrue trivial

theorem takeSeries?_line {entity name value : String} {tags : Tags} {time : Nat} {text : String}
    (h : (series entity name value tags time).line = .ok text) (plain : ' ' ∉ value.toList) (rest : List Char) :
    ∃ cs, text.toList ++ rest = "series".toList ++ ' ' :: cs ∧
      takeSeries? cs = some (.series entity name value tags time, rest) := by
  obtain ⟨entityText, he, h⟩ := of_bind_eq_ok h
  obtain ⟨nameText, hn, h⟩ := of_bind_eq_ok h
  obtain ⟨tagText, ht, h⟩ := of_bind_eq_ok h
  cases h
  let ending := Nat.toDigits 10 time ++ ' ' :: '\n' :: rest
  obtain ⟨cs, shape, length, tagsRead⟩ := takeTags?_tagsText ht ('m' :: 's' :: ':' :: ending) (by simp [skip?])
  have timeRead := takeNumber?_toDigits time ('\n' :: rest)
  have valueRead := takeWord?_append plain cs
  have nameRead := takeField?_quoted hn ('=' :: (value.toList ++ ' ' :: cs)) (by simp)
  have entityRead := takeField?_quoted he
    (' ' :: 'm' :: ':' :: (nameText.toList ++ '=' :: (value.toList ++ ' ' :: cs))) (by simp)
  refine ⟨'e' :: ':' :: (entityText.toList ++ ' ' :: 'm' :: ':' ::
    (nameText.toList ++ '=' :: (value.toList ++ ' ' :: cs))), ?_, ?_⟩
  · rw [← shape]
    simp [ending]
  · simp [takeSeries?, skip?, entityRead, nameRead, valueRead, tagsRead _ (Nat.lt_succ_of_le length), ending, timeRead]

theorem takeMetric?_line {name : String} {tags : Tags} {text : String} (h : (metric name tags).line = .ok text)
    (rest : List Char) :
    ∃ cs, text.toList ++ rest = "metric".toList ++ ' ' :: cs ∧ takeMetric? cs = some (.metric name tags, rest) := by
  obtain ⟨nameText, hn, h⟩ := of_bind_eq_ok h
  obtain ⟨tagText, ht, h⟩ := of_bind_eq_ok h
  cases h
  obtain ⟨cs, shape, length, tagsRead⟩ := takeTags?_tagsText ht ('\n' :: rest) (by simp [skip?])
  have nameRead := takeField?_quoted hn (' ' :: cs) (by simp)
  refine ⟨'m' :: ':' :: (nameText.toList ++ ' ' :: cs), ?_, ?_⟩
  · rw [← shape]
    simp
  · simp [takeMetric?, skip?, nameRead, tagsRead _ (Nat.lt_succ_of_le length)]

theorem takeProperty?_line {entity : String} {time : Nat} {type : String} {values : List (String × String)}
    {text : String} (h : (property entity time type values).line = .ok text) (rest : List Char) :
    ∃ cs, text.toList ++ rest = "property".toList ++ ' ' :: cs ∧
      takeProperty? cs = some (.property entity time type values, rest) := by
  obtain ⟨entityText, he, h⟩ := of_bind_eq_ok h
  obtain ⟨typeText, ht, h⟩ := of_bind_eq_ok h
  obtain ⟨valueText, hv, h⟩ := of_bind_eq_ok h
  cases h
  obtain ⟨rfl, sound⟩ := bare_eq_ok ht
  obtain ⟨cs, shape, length, valuesRead⟩ := takeValues?_valuesText hv ('\n' :: rest) (by simp [skip?])
  have noSpace : ' ' ∉ typeText.toList := fun hs => absurd (sound ' ' hs) (by decide)
  have typeRead := takeWord?_append noSpace cs
  have timeRead := takeNumber?_toDigits time ('t' :: ':' :: (typeText.toList ++ ' ' :: cs))
  have entityRead := takeField?_quoted he
    (' ' :: 'm' :: 's' :: ':' :: (Nat.toDigits 10 time ++ ' ' :: 't' :: ':' :: (typeText.toList ++ ' ' :: cs)))
    (by simp)
  refine ⟨'e' :: ':' :: (entityText.toList ++ ' ' :: 'm' :: 's' :: ':' ::
    (Nat.toDigits 10 time ++ ' ' :: 't' :: ':' :: (typeText.toList ++ ' ' :: cs))), ?_, ?_⟩
  · rw [← shape]
    simp
  · simp [takeProperty?, skip?, entityRead, timeRead, typeRead, valuesRead _ (Nat.lt_succ_of_le length)]

/-- The line of a command is read back, whatever follows it. -/
theorem take?_line {c : Command} {text : String} (h : c.line = .ok text) (plain : c.Plain) (rest : List Char) :
    take? (text.toList ++ rest) = some (c, rest) := by
  unfold take?
  cases c with
  | series entity name value tags time =>
    obtain ⟨cs, shape, read⟩ := takeSeries?_line h plain rest
    rw [shape, takeWord?_append (by decide)]
    exact read
  | metric name tags =>
    obtain ⟨cs, shape, read⟩ := takeMetric?_line h rest
    rw [shape, takeWord?_append (by decide)]
    exact read
  | property entity time type values =>
    obtain ⟨cs, shape, read⟩ := takeProperty?_line h rest
    rw [shape, takeWord?_append (by decide)]
    exact read

/-! ### Streams -/

/-- The lines of commands are read back one by one; there are no more of them than characters. -/
theorem takeAll?_join {commands : List Command} {lines : List String} (rendered : commands.mapM line = .ok lines)
    (plain : ∀ c ∈ commands, c.Plain) :
    commands.length ≤ (String.join lines).toList.length ∧
      ∀ fuel, commands.length ≤ fuel → takeAll? fuel (String.join lines).toList = some commands := by
  induction commands generalizing lines with
  | nil =>
    cases rendered
    exact ⟨Nat.zero_le _, fun fuel _ => by simp [takeAll?]⟩
  | cons c commands ih =>
    rw [List.mapM_cons] at rendered
    obtain ⟨text, first, rendered⟩ := of_bind_eq_ok rendered
    obtain ⟨texts, others, rendered⟩ := of_bind_eq_ok rendered
    cases rendered
    obtain ⟨length, readOthers⟩ := ih others fun c hc => plain c (List.mem_cons_of_mem _ hc)
    have read := take?_line first (plain c List.mem_cons_self) (String.join texts).toList
    rw [String.join_cons, String.toList_append]
    -- nothing can be read from an empty line, so each line counts as a character at least
    have full : text.toList ≠ [] := fun empty => by
      have := take?_line first (plain c List.mem_cons_self) []
      rw [empty] at this
      cases this
    obtain ⟨x, xs, shape⟩ := List.exists_cons_of_ne_nil full
    rw [shape, List.cons_append] at read ⊢
    constructor
    · simp only [List.length_cons, List.length_append]
      omega
    · intro fuel enough
      cases fuel with
      | zero => exact absurd enough (Nat.not_succ_le_zero _)
      | succ fuel =>
        rw [takeAll?, read]
        simp only [Option.bind_eq_bind, Option.bind_some, readOthers fuel (Nat.le_of_succ_le_succ enough)]
        rfl

theorem readAll?_of_mapM {commands : List Command} {lines : List String} (rendered : commands.mapM line = .ok lines)
    (plain : ∀ c ∈ commands, c.Plain) : readAll? (String.join lines) = some commands := by
  obtain ⟨length, read⟩ := takeAll?_join rendered plain
  exact read _ (String.length_toList ▸ length)

/-- The lines of commands, put one after the other, are read back as these commands.  So the bytes of the text are those
of no other list of commands. -/
theorem readAll?_join {commands : List Command} {lines : List String} (rendered : commands.mapM line = .ok lines)
    (plain : ∀ c ∈ commands, c.Plain) :
    readAll? (String.join lines) = some commands ∧
      ∀ {commands' : List Command} {lines' : List String}, commands'.mapM line = .ok lines' →
        (∀ c ∈ commands', c.Plain) → Text.bytes (String.join lines') = Text.bytes (String.join lines) →
          commands' = commands := by
  have read := readAll?_of_mapM rendered plain
  refine ⟨read, fun rendered' plain' same => ?_⟩
  have read' := readAll?_of_mapM rendered' plain'
  rw [SeriesKey.bytes_injective same, read] at read'
  exact (Option.some.inj read').symm

/-- Quotes, blanks and what looks like the next token, inside quoted fields. -/
theorem readAll?_join_quotes :
    let commands := [series "\"" "a\" m:\"=b" "1=2" [⟨"", "\"\""⟩, ⟨" t:", "\n"⟩] 0, metric "" [],
      property "=\"" 12 "type" [("key", " v:k=\"\" \nmetric m:\"")]]
    (∀ c ∈ commands, c.Plain) ∧
      ∃ lines, commands.mapM line = .ok lines ∧ readAll? (String.join lines) = some commands := by
  intro commands
  have plain : ∀ c ∈ commands, c.Plain := by decide
  exact ⟨plain, _, rfl, (readAll?_join rfl plain).1⟩

end MetricFeed.Command
