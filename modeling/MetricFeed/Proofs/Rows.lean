import MetricFeed.Program.Run
import MetricFeed.Proofs.JsonEnd
import Mathlib.Logic.Relation

/-!
# The rows of a text

An input is read as bytes, and what is read of a text are its rows (`rows`): the stretches between its line feeds,
without the carriage return that may stand before a line feed, and without an empty stretch at the end
(`lines_of_text`).  A line put into a text is one more row, and the samples stay the same if that row is blank or holds
none (`samples_eq_of_alters`).
-/

namespace MetricFeed

/-! ### Rows -/

/-- A line without the carriage return at its end. -/
def withoutReturn (cs : List Char) : List Char :=
  if cs.getLast? = some '\r' then cs.dropLast else cs

/-- The row of a line that ends with a line feed. -/
def row (line : List Char) : String :=
  String.ofList (withoutReturn line)

/-- The rows of the stretches between line feeds. -/
def rowsOf : List (List Char) → List String
  | [] => []
  | [last] => if last.isEmpty then [] else [String.ofList last]
  | line :: rest => row line :: rowsOf rest

def rows (t : String) : List String :=
  rowsOf (Text.pieces '\n' t.toList)

theorem rowsOf_cons {line : List Char} {rest : List (List Char)} (more : rest ≠ []) :
    rowsOf (line :: rest) = row line :: rowsOf rest := by
  cases rest with
  | nil => exact absurd rfl more
  | cons _ _ => rfl

/-! ### Bytes of a text -/

namespace Text

theorem bytes_ofList (cs : List Char) : bytes (String.ofList cs) = cs.flatMap String.utf8EncodeChar := by
  unfold bytes
  rw [String.toByteArray_ofList, List.utf8Encode, List.toList_data_toByteArray]

theorem ofBytes?_bytes (s : String) : ofBytes? (bytes s) = some s := by
  unfold ofBytes? bytes
  rw [Array.toArray_toList]
  exact dif_pos s.isValidUTF8

theorem bytes_of_ofBytes? {bs : List UInt8} {s : String} (read : ofBytes? bs = some s) : bytes s = bs := by
  unfold ofBytes? String.fromUTF8? at read
  split at read
  · rw [← Option.some.inj read]
    rfl
  · cases read

/-- A byte below 128 stands for its own character, and in no other one. -/
theorem eq_of_mem_utf8EncodeChar {a c : Char} (ascii : a.toNat < 128)
    (mem : UInt8.ofNat a.toNat ∈ String.utf8EncodeChar c) : c = a := by
  -- the bytes of a longer sequence are 128 and more
  have apart {n : Nat} (high : 128 ≤ n) (low : n < 256) : UInt8.ofNat a.toNat ≠ UInt8.ofNat n := by
    intro eq
    have eq := congrArg UInt8.toNat eq
    rw [UInt8.toNat_ofNat', UInt8.toNat_ofNat'] at eq
    omega
  unfold String.utf8EncodeChar at mem
  dsimp only at mem
  split at mem
  · rename_i short
    have eq := congrArg UInt8.toNat (List.mem_singleton.1 mem)
    rw [UInt8.toNat_ofNat', UInt8.toNat_ofNat'] at eq
    apply Char.toNat_inj.1
    show c.val.toNat = a.toNat
    omega
  · exfalso
    split at mem
    · simp only [List.mem_cons, List.not_mem_nil, or_false] at mem
      rcases mem with mem | mem
      all_goals exact apart (by omega) (by omega) mem
    · split at mem
      · simp only [List.mem_cons, List.not_mem_nil, or_false] at mem
        rcases mem with mem | mem | mem
        all_goals exact apart (by omega) (by omega) mem
      · simp only [List.mem_cons, List.not_mem_nil, or_false] at mem
        rcases mem with mem | mem | mem | mem
        all_goals exact apart (by omega) (by omega) mem

theorem mem_of_mem_encoded {a : Char} (ascii : a.toNat < 128) {cs : List Char}
    (mem : UInt8.ofNat a.toNat ∈ cs.flatMap String.utf8EncodeChar) : a ∈ cs := by
  obtain ⟨c, hc, mem⟩ := List.mem_flatMap.1 mem
  rw [← eq_of_mem_utf8EncodeChar ascii mem]
  exact hc

end Text

/-! ### Reading rows -/

/-- The bytes of a line that is read as text. -/
def encoded (cs : List Char) : List UInt8 :=
  cs.flatMap String.utf8EncodeChar

theorem lineText?_encoded (cs : List Char) : lineText? (encoded cs) = some (String.ofList cs) := by
  unfold lineText? encoded
  rw [← Text.bytes_ofList, Text.ofBytes?_bytes]

theorem dropReturn_encoded (cs : List Char) : dropReturn (encoded cs) = encoded (withoutReturn cs) := by
  rcases List.eq_nil_or_concat cs with rfl | ⟨before, c, rfl⟩
  · rfl
  · have bytes : encoded (before ++ [c]) = encoded before ++ String.utf8EncodeChar c := by
      unfold encoded
      rw [List.flatMap_append, List.flatMap_singleton]
    unfold dropReturn withoutReturn
    rw [List.concat_eq_append, bytes, List.getLast?_concat, List.dropLast_concat]
    by_cases isReturn : c = '\r'
    · subst isReturn
      have last : String.utf8EncodeChar '\r' = [13] := rfl
      rw [last, if_pos List.getLast?_concat, if_pos rfl, List.dropLast_concat]
    · rw [if_neg, if_neg fun h => isReturn (Option.some.inj h), bytes]
      intro last
      obtain ⟨b, hb⟩ := Option.isSome_iff_exists.1 (List.getLast?_isSome.2 (String.utf8EncodeChar_ne_nil (c := c)))
      rw [List.getLast?_append, hb] at last
      cases last
      exact isReturn (Text.eq_of_mem_utf8EncodeChar (a := '\r') (by decide) (List.mem_of_getLast? hb))

theorem linesFrom_append_cons {part : List UInt8} (free : 10 ∉ part) (line : List UInt8) (fails : Bool)
    (rest : List UInt8) :
    linesFrom line fails (part ++ 10 :: rest) =
      lineText? (dropReturn (line.reverse ++ part)) :: linesFrom [] fails rest := by
  induction part generalizing line with
  | nil =>
    rw [List.append_nil]
    exact if_pos rfl
  | cons b part ih =>
    simp only [List.mem_cons, not_or] at free
    have next : linesFrom line fails (b :: part ++ 10 :: rest) = linesFrom (b :: line) fails (part ++ 10 :: rest) :=
      if_neg fun h => free.1 h.symm
    rw [next, ih free.2, List.reverse_cons, List.append_assoc, List.singleton_append]

theorem linesFrom_of_not_mem {part : List UInt8} (free : 10 ∉ part) (line : List UInt8) :
    linesFrom line false part =
      if (line.reverse ++ part).isEmpty then [] else [lineText? (line.reverse ++ part)] := by
  induction part generalizing line with
  | nil =>
    rw [List.append_nil, List.isEmpty_reverse]
    rfl
  | cons b part ih =>
    simp only [List.mem_cons, not_or] at free
    have next : linesFrom line false (b :: part) = linesFrom (b :: line) false part :=
      if_neg fun h => free.1 h.symm
    rw [next, ih free.2, List.reverse_cons, List.append_assoc, List.singleton_append]

theorem not_mem_encoded {cs : List Char} (free : '\n' ∉ cs) : 10 ∉ encoded cs :=
  fun mem => free (Text.mem_of_mem_encoded (a := '\n') (by decide) mem)

theorem isEmpty_encoded (cs : List Char) : (encoded cs).isEmpty = cs.isEmpty := by
  cases cs with
  | nil => rfl
  | cons c cs =>
    have full : encoded (c :: cs) ≠ [] := by
      unfold encoded
      rw [List.flatMap_cons]
      exact List.append_ne_nil_of_left_ne_nil String.utf8EncodeChar_ne_nil _
    simpa using full

theorem linesFrom_encoded (cs : List Char) :
    linesFrom [] false (encoded cs) = (rowsOf (Text.pieces '\n' cs)).map some := by
  -- on the length: a line is taken off the front with its line feed
  induction length : cs.length using Nat.strongRecOn generalizing cs with
  | ind n ih =>
    by_cases mem : '\n' ∈ cs
    · obtain ⟨line, rest, rfl, free⟩ := List.eq_append_cons_of_mem mem
      have bytes : encoded (line ++ '\n' :: rest) = encoded line ++ 10 :: encoded rest := by
        unfold encoded
        rw [List.flatMap_append, List.flatMap_cons]
        rfl
      have shorter : rest.length < n := by
        rw [← length, List.length_append, List.length_cons]
        omega
      rw [bytes, linesFrom_append_cons (not_mem_encoded free), List.reverse_nil, List.nil_append, dropReturn_encoded,
        lineText?_encoded, ih rest.length shorter rest rfl, Text.pieces_append_cons free,
        rowsOf_cons (Text.pieces_ne_nil _ _), List.map_cons, row]
    · rw [linesFrom_of_not_mem (not_mem_encoded mem), List.reverse_nil, List.nil_append, isEmpty_encoded,
        lineText?_encoded, Text.pieces_of_not_mem mem]
      unfold rowsOf
      split <;> rfl

/-- An input that is a text. -/
def Input.ofText (t : String) : Input :=
  ⟨Text.bytes t, false⟩

/-- What is read of a text are its rows. -/
theorem lines_of_text (t : String) : (Input.ofText t).lines = (rows t).map some := by
  have bytes : Text.bytes t = encoded t.toList := by
    unfold encoded
    rw [← Text.bytes_ofList, String.ofList_toList]
  unfold Input.ofText Input.lines rows
  rw [bytes]
  exact linesFrom_encoded t.toList

/-! ### Blank rows -/

theorem isDigit_of_isBlank {c : Char} (blank : Text.isBlank c = true) : c.isDigit = false := by
  rw [Bool.eq_false_iff]
  intro digit
  have range : 48 ≤ c.toNat ∧ c.toNat ≤ 57 := Char.isDigit_iff_toNat.1 digit
  simp only [Text.isBlank, Bool.or_eq_true, Bool.and_eq_true, beq_iff_eq, decide_eq_true_eq] at blank
  omega

/-- No numeral begins with a blank. -/
theorem take?_of_blank {cs : List Char} (blank : ∀ c ∈ cs, Text.isBlank c = true) : Json.Numeral.take? cs = none := by
  have noWhole : Json.Numeral.takeWhole? cs = none := by
    have noDigits : (Number.takeDigits cs).1 = [] := by
      cases cs with
      | nil => rfl
      | cons c cs =>
        have noDigit := isDigit_of_isBlank (blank c List.mem_cons_self)
        exact List.takeWhile_cons_of_neg (by simp [noDigit])
    unfold Json.Numeral.takeWhole?
    generalize Number.takeDigits cs = taken at noDigits
    obtain ⟨digits, rest⟩ := taken
    subst noDigits
    rfl
  unfold Json.Numeral.take?
  split
  rename_i negative rest unsigned
  split at unsigned
  · exact absurd (blank '-' List.mem_cons_self) (by decide)
  · cases unsigned
    rw [noWhole]
    rfl

theorem takeValue?_of_blank {cs : List Char} (blank : ∀ c ∈ cs, Text.isBlank c = true) (fuel : Nat) :
    Json.takeValue? fuel cs = none := by
  cases fuel with
  | zero => rfl
  | succ fuel =>
    have rest : ∀ c ∈ Json.skip cs, Text.isBlank c = true := fun c hc =>
      blank c ((List.dropWhile_sublist _).subset hc)
    have first {c : Char} {others : List Char} (eq : Json.skip cs = c :: others) : Text.isBlank c = true :=
      rest c (by simp [eq])
    unfold Json.takeValue?
    split
    case h_7 =>
      rw [take?_of_blank rest]
      rfl
    all_goals
      rename_i eq
      exact absurd (first eq) (by decide)

theorem ofLine_of_allBlank {line : String} (blank : Text.allBlank line = true) :
    Sample.ofLine line = .error .malformed := by
  have unread : Json.read? line = none := by
    unfold Json.read?
    rw [takeValue?_of_blank (List.all_eq_true.1 blank)]
  unfold Sample.ofLine
  rw [unread]
  rfl

/-! ### The samples of the rows -/

/-- The samples of the rows that hold one, in order. -/
def samplesOf (rows : List String) : List Sample :=
  rows.filterMap fun row => (Sample.ofLine row).toOption

theorem samplesOf_append (rows others : List String) :
    samplesOf (rows ++ others) = samplesOf rows ++ samplesOf others :=
  List.filterMap_append

/-- The row is blank or holds no sample. -/
def Idle (row : String) : Prop :=
  Text.allBlank row = true ∨ ∃ e, Sample.ofLine row = .error e

theorem samplesOf_idle {row : String} (idle : Idle row) : samplesOf [row] = [] := by
  have rejected : ∃ e, Sample.ofLine row = .error e := by
    rcases idle with blank | rejected
    · exact ⟨_, ofLine_of_allBlank blank⟩
    · exact rejected
  obtain ⟨e, rejected⟩ := rejected
  refine List.filterMap_cons_none ?_
  rw [rejected]
  rfl

theorem ofLine_row (line : List Char) : Sample.ofLine (row line) = Sample.ofLine (String.ofList line) := by
  rcases List.eq_nil_or_concat line with rfl | ⟨before, c, rfl⟩
  · rfl
  · unfold row withoutReturn
    rw [List.concat_eq_append, List.getLast?_concat, List.dropLast_concat]
    split
    · rename_i isReturn
      obtain rfl : c = '\r' := Option.some.inj isReturn
      unfold Sample.ofLine
      rw [Json.read?_trail]
    · rfl

/-- The samples of a text are those of the stretches between its line feeds, with carriage returns or without. -/
theorem samplesOf_rows (t : String) :
    samplesOf (rows t) = samplesOf ((Text.pieces '\n' t.toList).map String.ofList) := by
  unfold rows
  induction Text.pieces '\n' t.toList with
  | nil => rfl
  | cons line rest ih =>
    cases rest with
    | nil =>
      unfold rowsOf
      split
      · rename_i empty
        obtain rfl : line = [] := List.isEmpty_iff.1 empty
        exact (samplesOf_idle (.inl rfl)).symm
      · rfl
    | cons next rest =>
      have one (row : String) (rows : List String) : samplesOf (row :: rows) = samplesOf [row] ++ samplesOf rows :=
        samplesOf_append [row] rows
      have same : samplesOf [row line] = samplesOf [String.ofList line] := by
        unfold samplesOf
        rw [List.filterMap_cons, List.filterMap_cons, ofLine_row]
      rw [rowsOf_cons (List.cons_ne_nil _ _), List.map_cons, one (row line), one (String.ofList line), ih, same]

/-! ### One more line -/

theorem pieces_append (c : Char) (xs ys : List Char) :
    Text.pieces c (xs ++ c :: ys) = Text.pieces c xs ++ Text.pieces c ys := by
  induction xs with
  | nil => simp [Text.pieces]
  | cons x xs ih =>
    rw [List.cons_append]
    by_cases eq : x = c
    · have next (zs : List Char) : Text.pieces c (x :: zs) = [] :: Text.pieces c zs := if_pos eq
      rw [next, next, ih, List.cons_append]
    · obtain ⟨p, ps, split⟩ := List.exists_cons_of_ne_nil (Text.pieces_ne_nil c xs)
      rw [Text.pieces, if_neg eq, Text.pieces, if_neg eq, ih, split]
      rfl

/-- The second text is the first with one more line, which is blank or holds no sample. -/
inductive Inserts : String → String → Prop where
  | first {line after : String} (single : '\n' ∉ line.toList) (idle : Idle line) :
    Inserts after (line ++ "\n" ++ after)
  | between {before line after : String} (single : '\n' ∉ line.toList) (idle : Idle line) :
    Inserts (before ++ "\n" ++ after) (before ++ "\n" ++ line ++ "\n" ++ after)
  | last {before line : String} (single : '\n' ∉ line.toList) (idle : Idle line) :
    Inserts before (before ++ "\n" ++ line)

theorem samples_eq_of_inserts {t t' : String} (h : Inserts t t') : samplesOf (rows t') = samplesOf (rows t) := by
  have toList (a b : String) : (a ++ "\n" ++ b).toList = a.toList ++ '\n' :: b.toList := by simp
  have idleLine {line : String} (single : '\n' ∉ line.toList) (idle : Idle line) :
      samplesOf ((Text.pieces '\n' line.toList).map String.ofList) = [] := by
    rw [Text.pieces_of_not_mem single, List.map_singleton, String.ofList_toList]
    exact samplesOf_idle idle
  rw [samplesOf_rows, samplesOf_rows]
  cases h with
  | first single idle =>
    rw [toList, pieces_append, List.map_append, samplesOf_append, idleLine single idle, List.nil_append]
  | between single idle =>
    rw [toList, toList, toList, pieces_append, pieces_append, pieces_append, List.map_append, List.map_append,
      List.map_append, samplesOf_append, samplesOf_append, samplesOf_append, idleLine single idle, List.append_nil]
  | last single idle =>
    rw [toList, pieces_append, List.map_append, samplesOf_append, idleLine single idle, List.append_nil]

/-- Such lines put in and taken out, any number of them. -/
theorem samples_eq_of_alters {t t' : String} (h : Relation.EqvGen Inserts t t') :
    samplesOf (rows t') = samplesOf (rows t) := by
  induction h with
  | rel t t' inserts => exact samples_eq_of_inserts inserts
  | refl t => rfl
  | symm t t' _ ih => exact ih.symm
  | trans t t₁ t₂ _ _ ih₁ ih₂ => exact ih₂.trans ih₁

end MetricFeed
