import MetricFeed.Number.Layout
import MetricFeed.Number.Reading
import MetricFeed.Text.Split
import Mathlib

/-!
# Decimal numerals

The exact number that a numeral denotes (`denoted?`): the reader of values gives the double next to it
(`readUnsigned?_eq`).  A numeral is put together from its whole part, its fraction and its exponent
(`decimal?_pointed`), and zeros at the end of the fraction do not matter (`trimmed_value`).
-/

namespace MetricFeed.Number

/-! ### Digits -/

def IsDigits (cs : List Char) : Prop :=
  ∀ c ∈ cs, c.isDigit = true

namespace IsDigits

variable {a b cs : List Char}

theorem append (ha : IsDigits a) (hb : IsDigits b) : IsDigits (a ++ b) := by
  intro c hc
  rcases List.mem_append.1 hc with hc | hc
  · exact ha c hc
  · exact hb c hc

theorem of_subset (h : IsDigits cs) (sub : a ⊆ cs) : IsDigits a :=
  fun c hc => h c (sub hc)

theorem zeros (n : Nat) : IsDigits (List.replicate n '0') := by
  intro c hc
  rw [List.eq_of_mem_replicate hc]
  rfl

theorem toDigits (n : Nat) : IsDigits (Nat.toDigits 10 n) :=
  fun _ hc => Nat.isDigit_of_mem_toDigits (by decide) (by decide) hc

/-- A character that is no digit stands after the digits. -/
theorem not_mem {c : Char} (h : IsDigits cs) (other : c.isDigit = false) : c ∉ cs := by
  intro mem
  rw [h c mem] at other
  cases other

end IsDigits

variable {cs ds : List Char}

theorem digitsValue_append (a b : List Char) :
    digitsValue (a ++ b) = digitsValue a * 10 ^ b.length + digitsValue b := by
  unfold digitsValue
  rw [Nat.ofDigitChars_append, Nat.ofDigitChars_eq_ofDigitChars_zero, Nat.mul_comm]

theorem digitsValue_zeros (n : Nat) : digitsValue (List.replicate n '0') = 0 := by
  unfold digitsValue
  rw [Nat.ofDigitChars_replicate_zero, Nat.mul_zero]

theorem digitsValue_toDigits (n : Nat) : digitsValue (Nat.toDigits 10 n) = n :=
  Nat.ofDigitChars_ten_toDigits

theorem digitsValue_singleton (c : Char) : digitsValue [c] = c.toNat - 48 := by
  simp [digitsValue, Nat.ofDigitChars]

theorem digitsValue_lt (h : IsDigits cs) : digitsValue cs < 10 ^ cs.length := by
  induction cs with
  | nil => decide
  | cons c cs ih =>
    have range : c.toNat ≤ 57 := (Char.isDigit_iff_toNat.1 (h c List.mem_cons_self)).2
    have rest := ih (h.of_subset (List.subset_cons_self c cs))
    rw [← List.singleton_append, digitsValue_append, List.length_append, List.length_singleton, Nat.pow_add,
      digitsValue_singleton]
    calc (c.toNat - 48) * 10 ^ cs.length + digitsValue cs
        < (c.toNat - 48) * 10 ^ cs.length + 10 ^ cs.length := Nat.add_lt_add_left rest _
      _ = (c.toNat - 48 + 1) * 10 ^ cs.length := by rw [Nat.add_mul, Nat.one_mul]
      _ ≤ 10 ^ 1 * 10 ^ cs.length := Nat.mul_le_mul_right _ (by omega)

/-! ### The digits of a number -/

section

variable {n k : Nat}

theorem length_toDigits (low : 10 ^ k ≤ n) (high : n < 10 ^ (k + 1)) : (Nat.toDigits 10 n).length = k + 1 := by
  have most := (Nat.length_toDigits_le_iff (by decide) (Nat.succ_pos k)).2 high
  rcases Nat.eq_zero_or_pos k with rfl | some
  · exact Nat.le_antisymm most Nat.length_toDigits_pos
  · have least := mt (Nat.length_toDigits_le_iff (by decide) some).1 (Nat.not_lt_of_le low)
    omega

/-- The first digit of a number that has `k` more is not zero. -/
theorem exists_toDigits (low : 10 ^ k ≤ n) (high : n < 10 ^ (k + 1)) :
    ∃ c cs, Nat.toDigits 10 n = c :: cs ∧ c ≠ '0' ∧ cs.length = k := by
  have length := length_toDigits low high
  obtain ⟨c, cs, digits⟩ := List.exists_cons_of_ne_nil (Nat.toDigits_ne_nil (n := n) (b := 10))
  rw [digits, List.length_cons] at length
  refine ⟨c, cs, digits, ?_, Nat.succ.inj length⟩
  rintro rfl
  have value := digitsValue_toDigits n
  have rest : IsDigits cs := (IsDigits.toDigits n).of_subset (digits ▸ List.subset_cons_self _ cs)
  have less := digitsValue_lt rest
  rw [digits, ← List.singleton_append, digitsValue_append, show digitsValue ['0'] = 0 from rfl, Nat.zero_mul,
    Nat.zero_add] at value
  rw [value, Nat.succ.inj length] at less
  exact absurd low (Nat.not_le_of_lt less)

/-- Without its last `k` digits a number is divided by `10 ^ k`. -/
theorem toDigits_div (large : 10 ^ k ≤ n) :
    ∃ t, t.length = k ∧ Nat.toDigits 10 n = Nat.toDigits 10 (n / 10 ^ k) ++ t := by
  induction k with
  | zero => exact ⟨[], rfl, by rw [Nat.pow_zero, Nat.div_one, List.append_nil]⟩
  | succ k ih =>
    obtain ⟨t, length, digits⟩ := ih (Nat.le_trans (Nat.pow_le_pow_right (by decide) k.le_succ) large)
    have more : 10 ≤ n / 10 ^ k := by
      rw [Nat.le_div_iff_mul_le (Nat.pow_pos (by decide)), Nat.mul_comm, ← Nat.pow_succ]
      exact large
    rw [Nat.toDigits_of_base_le (by decide) more, Nat.div_div_eq_div_mul, ← Nat.pow_succ, List.append_assoc,
      List.singleton_append] at digits
    exact ⟨_, by rw [List.length_cons, length], digits⟩

/-- A digit is that of its value. -/
theorem toDigits_digit {c : Char} (digit : c.isDigit = true) :
    digitsValue [c] < 10 ∧ Nat.toDigits 10 (digitsValue [c]) = [c] := by
  have range : 48 ≤ c.toNat ∧ c.toNat ≤ 57 := Char.isDigit_iff_toNat.1 digit
  have small : c.toNat - 48 < 10 := by omega
  rw [digitsValue_singleton, Nat.toDigits_of_lt_base small, List.cons.injEq]
  refine ⟨small, Char.toNat_inj.1 ?_, rfl⟩
  rw [Nat.toNat_digitChar_of_lt_ten small]
  omega

/-- Digits without a zero in front are those of their value. -/
theorem toDigits_digitsValue {cs : List Char} (digits : IsDigits cs) (some : cs ≠ [])
    (lead : cs.head? = .some '0' → cs = ['0']) : Nat.toDigits 10 (digitsValue cs) = cs := by
  induction cs using List.reverseRecOn with
  | nil => exact absurd rfl some
  | append_singleton ds c ih =>
    obtain ⟨small, last⟩ := toDigits_digit (digits c (by simp))
    by_cases single : ds = []
    · rw [single, List.nil_append, last]
    · -- what stands before the last digit has no zero in front either, and is not zero
      have front : ds.head? ≠ .some '0' := by
        intro zero
        have length := congrArg List.length (lead (by rw [List.head?_append_of_ne_nil _ single, zero]))
        simp [single] at length
      have before := ih (digits.of_subset (List.subset_append_left ds [c])) single fun zero => absurd zero front
      have positive : 0 < digitsValue ds := by
        rw [Nat.pos_iff_ne_zero]
        intro zero
        rw [← before, zero] at front
        exact front rfl
      rw [digitsValue_append, List.length_singleton, Nat.pow_one, Nat.mul_comm,
        ← Nat.toDigits_append_toDigits (by decide) positive small, before, last]

/-- No zero stands in front of the digits of a number, unless it is zero. -/
theorem head?_toDigits (n : Nat) (zero : (Nat.toDigits 10 n).head? = some '0') : Nat.toDigits 10 n = ['0'] := by
  rcases Nat.eq_zero_or_pos n with rfl | positive
  · rfl
  · obtain ⟨c, cs, digits, other, -⟩ := exists_toDigits (k := Nat.log 10 n) (Nat.pow_log_le_self 10 (by omega))
      (Nat.lt_pow_succ_log_self (by decide) n)
    rw [digits] at zero
    exact absurd (Option.some.inj zero) other

end

/-! ### What a numeral denotes -/

/-- The digits after a point, if there is one at the front. -/
def takeFraction : List Char → List Char × List Char
  | '.' :: r => takeDigits r
  | r => ([], r)

/-- The digits of a numeral without its sign as a whole number, and the exponent of the last one. -/
def decimal? (cs : List Char) : Option (Nat × Int) :=
  let (whole, rest) := takeDigits cs
  let (fraction, rest) := takeFraction rest
  if whole.isEmpty && fraction.isEmpty then none
  else (readExponent? rest).map fun e => (digitsValue (whole ++ fraction), e - fraction.length)

/-- The number that a numeral denotes. -/
def denoted? (cs : List Char) : Option ℚ :=
  let (neg, rest) := takeSign cs
  (decimal? rest).map fun p => if neg then -(p.1 * 10 ^ p.2) else p.1 * 10 ^ p.2

theorem readUnsigned?_eq (cs : List Char) : readUnsigned? cs = (decimal? cs).map fun p => ofDecimal p.1 p.2 := by
  have whole : readUnsigned? cs =
      if (takeDigits cs).1.isEmpty && (takeFraction (takeDigits cs).2).1.isEmpty then none
      else (readExponent? (takeFraction (takeDigits cs).2).2).map fun e =>
        ofDecimal (digitsValue ((takeDigits cs).1 ++ (takeFraction (takeDigits cs).2).1))
          (e - (takeFraction (takeDigits cs).2).1.length) := rfl
  rw [whole]
  unfold decimal?
  dsimp only
  split
  · rfl
  · rw [Option.map_map]
    rfl

theorem takeDigits_append {rest : List Char} (digits : IsDigits ds) (stop : ∀ c ∈ rest.head?, c.isDigit = false) :
    takeDigits (ds ++ rest) = (ds, rest) := by
  unfold takeDigits
  rw [List.takeWhile_append_of_pos digits, List.dropWhile_append_of_pos digits]
  cases rest with
  | nil => simp
  | cons c rest => simp [stop c rfl]

/-- A whole part, and a fraction behind a point if there is one. -/
def pointed (whole fraction : List Char) : List Char :=
  whole ++ if fraction = [] then [] else '.' :: fraction

theorem takeFraction_append {rest : List Char} (digits : IsDigits ds) (stop : ∀ c ∈ rest.head?, c = 'e') :
    takeFraction ((if ds = [] then [] else '.' :: ds) ++ rest) = (ds, rest) := by
  by_cases none : ds = []
  · rw [if_pos none, none]
    cases rest with
    | nil => rfl
    | cons c rest =>
      rw [stop c rfl]
      rfl
  · rw [if_neg none]
    apply takeDigits_append digits
    intro c hc
    rw [stop c hc]
    rfl

/-- A numeral is read as the number that its parts make up. -/
theorem decimal?_pointed {whole fraction rest : List Char} {e : Int} (digits : IsDigits whole) (some : whole ≠ [])
    (digits' : IsDigits fraction) (stop : ∀ c ∈ rest.head?, c = 'e') (exponent : readExponent? rest = .some e) :
    decimal? (pointed whole fraction ++ rest) = .some (digitsValue (whole ++ fraction), e - fraction.length) := by
  have stops : ∀ c ∈ ((if fraction = [] then [] else '.' :: fraction) ++ rest).head?, c.isDigit = false := by
    intro c hc
    by_cases none : fraction = []
    · rw [if_pos none, List.nil_append] at hc
      rw [stop c hc]
      rfl
    · rw [if_neg none] at hc
      cases hc
      rfl
  unfold decimal? pointed
  rw [List.append_assoc, takeDigits_append digits stops]
  dsimp only
  rw [takeFraction_append digits' stop]
  simp [some, exponent]

/-! ### Zeros at the end -/

section

open Layout (trimZeros)

theorem trimZeros_eq (cs : List Char) : trimZeros cs = cs.rdropWhile (· = '0') :=
  rfl

/-- Only zeros are taken off. -/
theorem exists_trimZeros (cs : List Char) : ∃ n, cs = trimZeros cs ++ List.replicate n '0' :=
  Text.exists_dropEnd '0' cs

theorem getLast?_trimZeros (cs : List Char) : (trimZeros cs).getLast? ≠ some '0' :=
  Text.getLast?_dropEnd '0' cs

/-- What ends without a zero stays as it is. -/
theorem trimZeros_of_getLast? (h : cs.getLast? ≠ some '0') : trimZeros cs = cs := by
  rw [trimZeros_eq, List.rdropWhile_eq_self_iff]
  intro some zero
  rw [decide_eq_true_eq] at zero
  exact h (zero ▸ List.getLast?_eq_some_getLast some)

theorem trimZeros_append_zeros (cs : List Char) (n : Nat) : trimZeros (cs ++ List.replicate n '0') = trimZeros cs := by
  induction n with
  | zero => rw [List.replicate_zero, List.append_nil]
  | succ n ih =>
    rw [List.replicate_succ', ← List.append_assoc, trimZeros_eq, List.rdropWhile_concat_pos _ _ _ (by decide)]
    exact ih

theorem trimZeros_zeros (n : Nat) : trimZeros (List.replicate n '0') = [] :=
  trimZeros_append_zeros [] n

/-- Zeros are taken off the second part first, and if something is left of it, then off that only. -/
theorem trimZeros_append_of_ne_nil {b : List Char} (a : List Char) (some : trimZeros b ≠ []) :
    trimZeros (a ++ b) = a ++ trimZeros b := by
  obtain ⟨n, split⟩ := exists_trimZeros b
  have last := getLast?_trimZeros b
  generalize trimZeros b = front at some split last ⊢
  rw [split, ← List.append_assoc, trimZeros_append_zeros]
  apply trimZeros_of_getLast?
  rwa [List.getLast?_append_of_ne_nil _ some]

theorem trimZeros_cons {c : Char} (other : c ≠ '0') (cs : List Char) : trimZeros (c :: cs) = c :: trimZeros cs := by
  by_cases none : trimZeros cs = []
  · obtain ⟨n, split⟩ := exists_trimZeros cs
    rw [none, List.nil_append] at split
    rw [none, split, ← List.singleton_append, trimZeros_append_zeros]
    exact trimZeros_of_getLast? (by simpa using other)
  · exact trimZeros_append_of_ne_nil [c] none

/-- A fraction denotes the same without the zeros at its end. -/
theorem trimmed_value (whole fraction : List Char) :
    (digitsValue (whole ++ trimZeros fraction) : ℚ) * 10 ^ (-(trimZeros fraction).length : ℤ) =
      digitsValue (whole ++ fraction) * 10 ^ (-fraction.length : ℤ) := by
  obtain ⟨n, split⟩ := exists_trimZeros fraction
  generalize trimZeros fraction = front at split ⊢
  rw [split, ← List.append_assoc, digitsValue_append _ (List.replicate n '0'), digitsValue_zeros, Nat.add_zero,
    List.length_append, List.length_replicate]
  push_cast
  rw [neg_add, zpow_add₀ (by norm_num), zpow_neg _ (n : ℤ), zpow_natCast, mul_assoc, mul_left_comm (10 ^ n : ℚ)]
  rw [mul_inv_cancel₀ (by positivity), mul_one]

end

end MetricFeed.Number
