import MetricFeed.Proofs.Journal
import MetricFeed.Proofs.Setbacks

/-!
# Commands are lines

The line of a command ends with a line feed, and any other line feed in it stands inside a quoted field, whose text goes
out as it is but for its quotes (`Command.stretch_line`).  So the blocks of a writer fall into the accepted lines at the
line feeds outside quotes, whatever the fields hold (`Text.lines_join`).
-/

namespace MetricFeed

namespace Text

/-! ### Cutting a text into lines -/

/-- The lines of a text, each with its line feed.  A line feed inside quotes ends no line. -/
def cutLines (inQuotes : Bool) : List Char → List (List Char)
  | [] => []
  | c :: cs =>
    if c = '\n' ∧ inQuotes = false then [c] :: cutLines false cs
    else match cutLines (inQuotes != (c == '"')) cs with
      | [] => [[c]]
      | line :: rest => (c :: line) :: rest

def lines (s : String) : List String :=
  (cutLines false s.toList).map String.ofList

/-- Whether a text ends inside quotes, if no line feed in it stands outside of them. -/
def endsQuoted? (inQuotes : Bool) : List Char → Option Bool
  | [] => some inQuotes
  | c :: cs => if c = '\n' ∧ inQuotes = false then none else endsQuoted? (inQuotes != (c == '"')) cs

theorem endsQuoted?_append (p : Bool) (a b : List Char) :
    endsQuoted? p (a ++ b) = (endsQuoted? p a).bind fun q => endsQuoted? q b := by
  induction a generalizing p with
  | nil => rfl
  | cons c a ih =>
    rw [List.cons_append, endsQuoted?, endsQuoted?, ih]
    split <;> rfl

/-- Every quote goes in or out. -/
theorem eq_of_endsQuoted? {cs : List Char} {p q : Bool} (h : endsQuoted? p cs = some q) :
    q = (p != (cs.count '"' % 2 == 1)) := by
  induction cs generalizing p with
  | nil =>
    cases h
    cases q <;> rfl
  | cons c cs ih =>
    rw [endsQuoted?] at h
    split at h
    · cases h
    · rw [ih h, List.count_cons]
      by_cases quote : (c == '"') = true
      · rw [quote, if_pos rfl]
        rcases Nat.mod_two_eq_zero_or_one (cs.count '"') with even | odd
        · rw [even, Nat.add_mod, even]
          cases p <;> rfl
        · rw [odd, Nat.add_mod, odd]
          cases p <;> rfl
      · rw [Bool.eq_false_iff.2 quote]
        cases p <;> rfl

/-- An odd number of quotes stands before a line feed inside quotes. -/
theorem count_of_feed {before after : List Char} {q : Bool}
    (h : endsQuoted? false (before ++ '\n' :: after) = some q) : before.count '"' % 2 = 1 := by
  rw [endsQuoted?_append] at h
  obtain ⟨p, opened, h⟩ := Option.bind_eq_some_iff.1 h
  rw [endsQuoted?] at h
  split at h
  · cases h
  · rename_i inside
    have eq := eq_of_endsQuoted? opened
    cases p with
    | false => exact absurd ⟨rfl, rfl⟩ inside
    | true => simpa using eq.symm

theorem cutLines_append {body : List Char} {p : Bool} (h : endsQuoted? p body = some false) (rest : List Char) :
    cutLines p (body ++ '\n' :: rest) = (body ++ ['\n']) :: cutLines false rest := by
  induction body generalizing p with
  | nil =>
    cases h
    rfl
  | cons c body ih =>
    rw [endsQuoted?] at h
    split at h
    · cases h
    · rename_i inside
      rw [List.cons_append, cutLines, if_neg inside, ih h]
      rfl

/-- A text that ends with a line feed, the only one outside quotes. -/
def IsLine (s : String) : Prop :=
  ∃ body, s.toList = body ++ ['\n'] ∧ endsQuoted? false body = some false

theorem lines_join {all : List String} (h : ∀ s ∈ all, IsLine s) : lines (String.join all) = all := by
  induction all with
  | nil => rfl
  | cons s all ih =>
    obtain ⟨body, shape, closed⟩ := h s List.mem_cons_self
    have others := ih fun s hs => h s (List.mem_cons_of_mem _ hs)
    have cut : cutLines false (String.join (s :: all)).toList =
        s.toList :: cutLines false (String.join all).toList := by
      rw [String.join_cons, String.toList_append, shape, List.append_assoc, List.singleton_append,
        cutLines_append closed]
    rw [lines, cut, List.map_cons, String.ofList_toList]
    exact congrArg (s :: ·) others

/-! ### Quoted texts -/

theorem endsQuoted?_body (cs : List Char) : endsQuoted? true (Quoted.body cs) = some true := by
  induction cs with
  | nil => rfl
  | cons c cs ih =>
    rw [Quoted.body_cons, endsQuoted?_append]
    have stays : endsQuoted? true (Quoted.charText c) = some true := by
      unfold Quoted.charText
      split
      · rfl
      · rename_i other
        simp [endsQuoted?, other]
    rw [stays]
    exact ih

theorem count_feed_body (cs : List Char) : (Quoted.body cs).count '\n' = cs.count '\n' := by
  induction cs with
  | nil => rfl
  | cons c cs ih =>
    rw [Quoted.body_cons, List.count_append, ih, Quoted.charText, List.count_cons, Nat.add_comm]
    split
    · rename_i quote
      rw [quote]
      rfl
    · rw [List.count_singleton]

end Text

/-! ### Stretches of a line -/

/-- A stretch of a line with what its quoted fields hold: the quotes in it are closed, and its line feeds are those of
the fields. -/
structure Stretch (cs inner : List Char) : Prop where
  closed : Text.endsQuoted? false cs = some false
  feeds : cs.count '\n' = inner.count '\n'

namespace Stretch

variable {a b i j : List Char}

theorem append (ha : Stretch a i) (hb : Stretch b j) : Stretch (a ++ b) (i ++ j) where
  closed := by
    rw [Text.endsQuoted?_append, ha.closed]
    exact hb.closed
  feeds := by rw [List.count_append, List.count_append, ha.feeds, hb.feeds]

/-- Text without a quote or a line feed. -/
theorem plain (h : a.all (fun c => c != '\n' && c != '"') = true) : Stretch a [] := by
  induction a with
  | nil => exact ⟨rfl, rfl⟩
  | cons c a ih =>
    rw [List.all_cons, Bool.and_eq_true, Bool.and_eq_true, bne_iff_ne, bne_iff_ne] at h
    obtain ⟨⟨feed, quote⟩, others⟩ := h
    obtain ⟨closed, feeds⟩ := ih others
    refine ⟨?_, ?_⟩
    · rw [Text.endsQuoted?, if_neg fun h => feed h.1, beq_eq_false_iff_ne.2 quote]
      exact closed
    · rw [List.count_cons_of_ne feed]
      exact feeds

theorem unbroken (h : Unbroken a) : Stretch a [] := by
  refine plain (List.all_eq_true.2 fun c hc => ?_)
  have sound := h c hc
  rw [Bool.and_eq_true, bne_iff_ne, bne_iff_ne]
  constructor
  · rintro rfl
    exact absurd sound (by decide)
  · rintro rfl
    exact absurd sound (by decide)

theorem lead (ha : Stretch a []) (hb : Stretch b j) : Stretch (a ++ b) j :=
  ha.append hb

theorem trail (ha : Stretch a i) (hb : Stretch b []) : Stretch (a ++ b) i := by
  rw [← List.append_nil i]
  exact ha.append hb

theorem field {s text : String} (h : Command.quoted s = .ok text) : Stretch text.toList s.toList := by
  unfold Command.quoted quoteField at h
  dsimp only at h
  split at h
  · rename_i body hb
    split at hb
    · cases hb
    · cases hb
      cases h
      have shape : ("\"" ++ String.ofList (Text.Quoted.body s.toList) ++ "\"").toList =
          '"' :: (Text.Quoted.body s.toList ++ ['"']) := by simp
      rw [shape]
      refine ⟨?_, ?_⟩
      · show Text.endsQuoted? true (_ ++ _) = _
        rw [Text.endsQuoted?_append, Text.endsQuoted?_body]
        rfl
      · rw [List.count_cons_of_ne (by decide), List.count_append, Text.count_feed_body]
        rfl
  · cases h

end Stretch

/-! ### Lines of commands -/

namespace Command

/-- The texts of the quoted fields of a command. -/
def texts : Command → List String
  | series entity name _ tags _ => entity :: name :: tags.flatMap fun t => [t.key, t.value]
  | metric name tags => name :: tags.flatMap fun t => [t.key, t.value]
  | property entity _ _ values => entity :: values.map Prod.snd

theorem stretch_tagsText {tags : Tags} {text : String} (h : tagsText tags = .ok text) :
    Stretch text.toList ((tags.flatMap fun t => [t.key, t.value]).flatMap String.toList) := by
  induction tags generalizing text with
  | nil =>
    cases h
    exact .plain rfl
  | cons t ts ih =>
    obtain ⟨key, hk, h⟩ := of_bind_eq_ok h
    obtain ⟨value, hv, h⟩ := of_bind_eq_ok h
    obtain ⟨rest, hr, h⟩ := of_bind_eq_ok h
    cases h
    have shape : (" t:" ++ key ++ "=" ++ value ++ rest).toList =
        [' ', 't', ':'] ++ (key.toList ++ (['='] ++ (value.toList ++ rest.toList))) := by simp
    rw [shape]
    exact .lead (.plain rfl) (.append (.field hk) (.lead (.plain rfl) (.append (.field hv) (ih hr))))

theorem stretch_valuesText {values : List (String × String)} {text : String} (h : valuesText values = .ok text) :
    Stretch text.toList ((values.map Prod.snd).flatMap String.toList) := by
  induction values generalizing text with
  | nil =>
    cases h
    exact .plain rfl
  | cons v vs ih =>
    obtain ⟨key, hk, h⟩ := of_bind_eq_ok h
    obtain ⟨value, hv, h⟩ := of_bind_eq_ok h
    obtain ⟨rest, hr, h⟩ := of_bind_eq_ok h
    cases h
    obtain ⟨rfl, sound⟩ := bare_eq_ok hk
    have shape : (" v:" ++ v.1 ++ "=" ++ value ++ rest).toList =
        [' ', 'v', ':'] ++ (v.1.toList ++ (['='] ++ (value.toList ++ rest.toList))) := by simp
    rw [shape]
    exact .lead (.plain rfl) (.lead (.unbroken sound) (.lead (.plain rfl) (.append (.field hv) (ih hr))))

/-- A line is a stretch with a line feed behind it. -/
theorem stretch_line {c : Command} (legible : c.Legible) {text : String} (h : c.line = .ok text) :
    ∃ body, text.toList = body ++ ['\n'] ∧ Stretch body (c.texts.flatMap String.toList) := by
  cases c with
  | series entity name value tags time =>
    obtain ⟨entityText, he, h⟩ := of_bind_eq_ok h
    obtain ⟨nameText, hn, h⟩ := of_bind_eq_ok h
    obtain ⟨tagText, ht, h⟩ := of_bind_eq_ok h
    cases h
    have timeText : Stretch (" ms:" ++ toString time ++ " ").toList [] := by
      rw [String.toList_append, String.toList_append]
      exact .lead (.lead (.plain rfl) (.unbroken (unbroken_toString time))) (.plain rfl)
    refine ⟨"series e:".toList ++ (entityText.toList ++ (" m:".toList ++ (nameText.toList ++ ("=".toList ++
      (value.toList ++ (tagText.toList ++ (" ms:" ++ toString time ++ " ").toList)))))), by simp, ?_⟩
    exact .lead (.plain rfl) (.append (.field he) (.lead (.plain rfl) (.append (.field hn) (.lead (.plain rfl)
      (.lead (.unbroken legible) (.trail (stretch_tagsText ht) timeText))))))
  | metric name tags =>
    obtain ⟨nameText, hn, h⟩ := of_bind_eq_ok h
    obtain ⟨tagText, ht, h⟩ := of_bind_eq_ok h
    cases h
    refine ⟨"metric m:".toList ++ (nameText.toList ++ (tagText.toList ++ " ".toList)), by simp, ?_⟩
    exact .lead (.plain rfl) (.append (.field hn) (.trail (stretch_tagsText ht) (.plain rfl)))
  | property entity time type values =>
    obtain ⟨entityText, he, h⟩ := of_bind_eq_ok h
    obtain ⟨typeText, ht, h⟩ := of_bind_eq_ok h
    obtain ⟨valueText, hv, h⟩ := of_bind_eq_ok h
    cases h
    obtain ⟨rfl, sound⟩ := bare_eq_ok ht
    refine ⟨"property e:".toList ++ (entityText.toList ++ (" ms:".toList ++ ((toString time).toList ++ (" t:".toList ++
      (typeText.toList ++ (valueText.toList ++ " ".toList)))))), by simp, ?_⟩
    exact .lead (.plain rfl) (.append (.field he) (.lead (.plain rfl) (.lead (.unbroken (unbroken_toString time))
      (.lead (.plain rfl) (.lead (.unbroken sound) (.trail (stretch_valuesText hv) (.plain rfl)))))))

theorem isLine_line {c : Command} (drafted : c.Drafted) {text : String} (h : c.line = .ok text) :
    Text.IsLine text := by
  obtain ⟨body, shape, stretch⟩ := stretch_line drafted.legible h
  exact ⟨body, shape, stretch.closed⟩

/-- The line feed at the end is the only one outside quotes, and the only one at all unless a text holds one. -/
theorem feeds_of_line {c : Command} (drafted : c.Drafted) {text : String} (h : c.line = .ok text) :
    ∃ body, text.toList = body ++ ['\n'] ∧ body.count '"' % 2 = 0 ∧
      (∀ before after, body = before ++ '\n' :: after → before.count '"' % 2 = 1) ∧
      (text.toList.count '\n' = 1 ↔ ∀ t ∈ c.texts, '\n' ∉ t.toList) := by
  obtain ⟨body, shape, closed, feeds⟩ := stretch_line drafted.legible h
  refine ⟨body, shape, ?_, ?_, ?_⟩
  · have even := Text.eq_of_endsQuoted? closed
    simp at even
    omega
  · rintro before after rfl
    exact Text.count_of_feed closed
  · rw [shape, List.count_append, feeds, List.count_singleton_self, Nat.add_eq_right, List.count_eq_zero,
      List.mem_flatMap]
    push Not
    rfl

end Command

/-! ### Lines of a run -/

namespace Writer

theorem drafted_of_accepted (s : Settings) (network : Network) (now wall : Int) (machine : HostAnswer)
    (calls : List (Call Op)) {line : String}
    (h : line ∈ (course s network now wall machine calls).world.acceptedLines) :
    ∃ c : Command, c.Drafted ∧ c.line = .ok line := by
  obtain ⟨-, -, commands, journal, lines⟩ := keeps_course s network now wall machine calls
  have mem : Except.ok line ∈ commands.map Command.line := by
    rw [lines]
    exact List.mem_map_of_mem h
  obtain ⟨c, hc, rendered⟩ := List.mem_map.1 mem
  exact ⟨c, journal.drafted c hc, rendered⟩

/-- The lines of the blocks, and of the text that waits, are those accepted. -/
theorem acceptedLines_eq_lines (s : Settings) (network : Network) (now wall : Int) (machine : HostAnswer)
    (calls : List (Call Op)) :
    let k := course s network now wall machine calls
    k.world.acceptedLines =
      (k.world.handed.flatMap fun b => Text.lines b.1) ++ Text.lines k.state.channel.batch.text := by
  intro k
  have isLine : ∀ line ∈ k.world.acceptedLines, Text.IsLine line := by
    intro line hline
    obtain ⟨c, drafted, rendered⟩ := drafted_of_accepted s network now wall machine calls hline
    exact Command.isLine_line drafted rendered
  obtain ⟨groups, last, accepted, handed, rest⟩ := grouped_course s network now wall machine calls
  rw [accepted] at isLine
  have lastLines := Text.lines_join fun line hline => isLine line (List.mem_append_right _ hline)
  have groupLines : ∀ g ∈ groups, Text.lines (String.join g.1) = g.1 := fun g hg =>
    Text.lines_join fun line hline =>
      isLine line (List.mem_append_left _ (List.mem_flatMap.2 ⟨g, hg, hline⟩))
  rw [accepted, handed, rest, lastLines, List.flatMap_map]
  congr 1
  exact (List.flatMap_congr groupLines).symm

/-- The line of every command ends with a line feed, and another line feed in it stands inside the quotes of a field,
where there is one only if a text of the command holds one.  So the line feeds outside quotes cut the blocks of a run
into the accepted lines, each the line of one command. -/
theorem one_command_per_line :
    (∀ (c : Command) (line : String), c.Drafted → c.line = .ok line →
      ∃ body, line.toList = body ++ ['\n'] ∧ body.count '"' % 2 = 0 ∧
        (∀ before after, body = before ++ '\n' :: after → before.count '"' % 2 = 1) ∧
        (line.toList.count '\n' = 1 ↔ ∀ t ∈ c.texts, '\n' ∉ t.toList)) ∧
    ∀ (s : Settings) (network : Network) (now wall : Int) (machine : HostAnswer) (calls : List (Call Op)),
      let k := course s network now wall machine calls
      (∀ line ∈ k.world.acceptedLines, ∃ c : Command, c.Drafted ∧ c.line = .ok line) ∧
        k.world.acceptedLines =
          (k.world.handed.flatMap fun b => Text.lines b.1) ++ Text.lines k.state.channel.batch.text := by
  refine ⟨fun c line drafted rendered => Command.feeds_of_line drafted rendered, ?_⟩
  intro s network now wall machine calls
  exact ⟨fun line h => drafted_of_accepted s network now wall machine calls h,
    acceptedLines_eq_lines s network now wall machine calls⟩

/-- A property whose value holds a line feed. -/
theorem one_command_per_line_broken :
    let p : Property := { host := "h", type := "t", time := 7, values := [("k", "a\nb")] }
    let line := "property e:\"h\" ms:7 t:t v:k=\"a\nb\" \n"
    (p.command "h").Drafted ∧ (p.command "h").line = .ok line ∧
      ∃ body, line.toList = body ++ ['\n'] ∧ body.count '"' % 2 = 0 ∧
        (∀ before after, body = before ++ '\n' :: after → before.count '"' % 2 = 1) ∧
        (line.toList.count '\n' = 1 ↔ ∀ t ∈ (p.command "h").texts, '\n' ∉ t.toList) := by
  intro p line
  have drafted : (p.command "h").Drafted := .property p "h"
  have rendered : (p.command "h").line = .ok line := by decide
  exact ⟨drafted, rendered, one_command_per_line.1 _ line drafted rendered⟩

/-- Its line holds two line feeds, and it is delivered. -/
theorem two_feeds_in_a_line :
    let p : Property := { host := "h", type := "t", time := 7, values := [("k", "a\nb")] }
    let k := course {} .ideal 0 0 (.name []) [⟨.property p, 0, 0, .name []⟩, ⟨.flush 0, 0, 0, .name []⟩]
    (¬∀ line ∈ k.world.acceptedLines, line.toList.count '\n' = 1) ∧
      ¬∀ block ∈ k.world.deliveredBlocks, block.toList.count '\n' = k.world.acceptedLines.length := by
  decide

end Writer

end MetricFeed
