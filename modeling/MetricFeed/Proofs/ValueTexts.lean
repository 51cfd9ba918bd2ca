import MetricFeed.Command
import MetricFeed.Rule

/-!
# The characters of a value

Whatever a value is, nothing in its text would break a bare token: there is no blank, no quote and no equals sign in it
(`Value.unbroken_text`, `unbroken_inverted`).  So the value of a series, which stands without quotes, ends at the space
behind it.
-/

namespace MetricFeed

/-- No character breaks a token. -/
def Unbroken (cs : List Char) : Prop :=
  ∀ c ∈ cs, Command.breaksToken c = false

namespace Unbroken

variable {a b cs : List Char}

theorem nil : Unbroken [] := fun c hc => by cases hc

theorem of_any (h : cs.any Command.breaksToken = false) : Unbroken cs := by
  intro c hc
  exact Bool.eq_false_iff.2 (List.any_eq_false.1 h c hc)

theorem cons {c : Char} (hc : Command.breaksToken c = false) (h : Unbroken cs) : Unbroken (c :: cs) := by
  intro x hx
  rcases List.mem_cons.1 hx with rfl | hx
  · exact hc
  · exact h x hx

theorem append (ha : Unbroken a) (hb : Unbroken b) : Unbroken (a ++ b) := by
  intro c hc
  rcases List.mem_append.1 hc with hc | hc
  · exact ha c hc
  · exact hb c hc

theorem of_subset (h : Unbroken cs) (sub : a ⊆ cs) : Unbroken a :=
  fun c hc => h c (sub hc)

theorem zeros (n : Nat) : Unbroken (List.replicate n '0') := by
  intro c hc
  rw [List.eq_of_mem_replicate hc]
  decide

end Unbroken

theorem breaksToken_of_isDigit {c : Char} (h : c.isDigit = true) : Command.breaksToken c = false := by
  have range : 48 ≤ c.toNat ∧ c.toNat ≤ 57 := Char.isDigit_iff_toNat.1 h
  have quote : c ≠ '"' := fun e => by rw [e] at range; revert range; decide
  have equals : c ≠ '=' := fun e => by rw [e] at range; revert range; decide
  have blank : Text.isBlank c = false := by
    simp only [Text.isBlank, Bool.or_eq_false_iff, Bool.and_eq_false_iff, beq_eq_false_iff_ne,
      decide_eq_false_iff_not]
    omega
  simp [Command.breaksToken, quote, equals, blank]

theorem unbroken_toDigits (n : Nat) : Unbroken (Nat.toDigits 10 n) :=
  fun _ hc => breaksToken_of_isDigit (Nat.isDigit_of_mem_toDigits (by decide) (by decide) hc)

theorem unbroken_toString (n : Nat) : Unbroken (toString n).toList := by
  rw [Nat.toString_eq_repr, Nat.toList_repr]
  exact unbroken_toDigits n

theorem toList_toString_negSucc (n : Nat) : (toString (Int.negSucc n)).toList = '-' :: (toString (n + 1)).toList :=
  String.toList_append

/-! ### Numbers -/

namespace Number.Layout

theorem unbroken_trimZeros {cs : List Char} (h : Unbroken cs) : Unbroken (trimZeros cs) :=
  h.of_subset fun c hc => by
    have : c ∈ cs.reverse := (List.dropWhile_sublist _).subset (List.mem_reverse.1 hc)
    exact List.mem_reverse.1 this

theorem unbroken_positionalText {wholeEnd cs : List Char} (hw : Unbroken wholeEnd) (h : Unbroken cs) (lead : Int) :
    Unbroken (positionalText wholeEnd cs lead) := by
  unfold positionalText
  dsimp only
  split
  · exact .cons (by decide) (.cons (by decide) (.append (.zeros _) h))
  · split
    · exact .append (.append h (.zeros _)) hw
    · exact .append (h.of_subset (List.take_subset _ _)) (.cons (by decide) (h.of_subset (List.drop_subset _ _)))

theorem unbroken_exponentText (width : Nat) (lead : Int) : Unbroken (exponentText width lead) := by
  unfold exponentText
  dsimp only
  refine .cons (by decide) (.cons ?_ (.append (.zeros _) (unbroken_toDigits _)))
  split <;> decide

theorem unbroken_scientificText {cs : List Char} (h : Unbroken cs) (width : Nat) (lead : Int) :
    Unbroken (scientificText width cs lead) := by
  unfold scientificText
  refine .append (.append (h.of_subset (List.take_subset _ _)) ?_) (unbroken_exponentText width lead)
  split
  · exact .nil
  · exact .cons (by decide) (h.of_subset (List.drop_subset _ _))

theorem unbroken_sizeText {l : Layout} (hw : Unbroken l.wholeEnd) (v : Float) : Unbroken (l.sizeText v) := by
  unfold sizeText figuresText
  dsimp only
  split
  · exact .of_any (by decide)
  · split
    · exact .cons (by decide) hw
    · have digits (n : Nat) : Unbroken (trimZeros (Nat.toDigits 10 n)) := unbroken_trimZeros (unbroken_toDigits n)
      split
      · exact unbroken_positionalText hw (digits _) _
      · exact unbroken_scientificText (digits _) _ _

/-- The text of a number is unbroken if the word for NaN is, and what stands after whole numbers. -/
theorem unbroken_text {l : Layout} (hn : Unbroken l.nan.toList) (hw : Unbroken l.wholeEnd) (v : Float) :
    Unbroken (l.text v).toList := by
  unfold text
  split
  · exact hn
  · rw [String.toList_ofList]
    split
    · exact .cons (by decide) (unbroken_sizeText hw v)
    · exact unbroken_sizeText hw v

end Number.Layout

theorem unbroken_general (v : Float) : Unbroken (general v).toList :=
  Number.Layout.unbroken_text (l := generalLayout) (.of_any (by decide)) .nil v

theorem unbroken_plain (v : Float) : Unbroken (plain v).toList :=
  Number.Layout.unbroken_text (l := plainLayout) (.of_any (by decide)) .nil v

/-! ### Values -/

theorem Value.unbroken_text (v : Value) (rate : Option Float) : Unbroken (v.text rate).toList := by
  unfold Value.text
  split
  · exact unbroken_general _
  · exact unbroken_plain _
  · exact unbroken_toString _
  · rename_i n
    cases n.toInt with
    | ofNat n => exact unbroken_toString n
    | negSucc n =>
      rw [toList_toString_negSucc]
      exact .cons (by decide) (unbroken_toString (n + 1))
  · exact unbroken_toString _

theorem unbroken_inverted (s : String) : Unbroken (inverted s).toList :=
  unbroken_general _

/-- The texts that a series can have for its value: that of a value of any kind, with a rate or without, and the rest to
a hundred of any text. -/
inductive IsValueText : String → Prop where
  | ofValue (v : Value) (rate : Option Float) : IsValueText (v.text rate)
  | inverted (s : String) : IsValueText (MetricFeed.inverted s)

theorem IsValueText.unbroken {t : String} (h : IsValueText t) : Unbroken t.toList := by
  cases h with
  | ofValue v rate => exact v.unbroken_text rate
  | inverted s => exact unbroken_inverted s

end MetricFeed
