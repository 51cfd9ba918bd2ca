import MetricFeed.Proofs.Doubles
import MetricFeed.Proofs.Figures
import MetricFeed.Proofs.Numerals
import MetricFeed.ValueText

/-!
# Fifteen figures

A finite double that is no zero is written as the number of fifteen figures that is nearest to its exact value: the text
denotes that number, and its form follows from the leading exponent (`general_figures`).  The same text comes of two
roundings: one that finds the exponent, and one of the decimals that are left then (`twice_eq`).
-/

namespace MetricFeed.Number

open Layout (trimZeros positionalText scientificText exponentText)

/-! ### Whole part and fraction -/

/-- The digits before the point, the first digit being at `10 ^ lead`. -/
def wholeOf (ds : List Char) (lead : Int) : List Char :=
  if lead < 0 then ['0'] else ds.take (lead.toNat + 1)

/-- The digits behind the point. -/
def fractionOf (ds : List Char) (lead : Int) : List Char :=
  if lead < 0 then List.replicate ((-lead).toNat - 1) '0' ++ ds else ds.drop (lead.toNat + 1)

section

variable {c : Char} {cs ds : List Char} {lead : Int}

theorem wholeOf_ne_nil (some : ds ≠ []) : wholeOf ds lead ≠ [] := by
  unfold wholeOf
  split
  · exact List.cons_ne_nil _ _
  · simpa using some

theorem digits_wholeOf (digits : IsDigits ds) (lead : Int) : IsDigits (wholeOf ds lead) := by
  unfold wholeOf
  split
  · exact .zeros 1
  · exact digits.of_subset (List.take_subset _ _)

theorem digits_fractionOf (digits : IsDigits ds) (lead : Int) : IsDigits (fractionOf ds lead) := by
  unfold fractionOf
  split
  · exact (IsDigits.zeros _).append digits
  · exact digits.of_subset (List.drop_subset _ _)

theorem digits_trimZeros (digits : IsDigits ds) : IsDigits (trimZeros ds) :=
  digits.of_subset (List.rdropWhile_prefix _ ds).subset

/-- The digits are those of the number, and the fraction reaches as far as they do. -/
theorem value_wholeOf_fractionOf (within : lead < ds.length) :
    digitsValue (wholeOf ds lead ++ fractionOf ds lead) = digitsValue ds ∧
      (-(fractionOf ds lead).length : ℤ) = lead - (ds.length - 1) := by
  unfold wholeOf fractionOf
  by_cases small : lead < 0
  · rw [if_pos small, if_pos small]
    constructor
    · rw [digitsValue_append, digitsValue_append, digitsValue_zeros, show digitsValue ['0'] = 0 from rfl, Nat.zero_mul,
        Nat.zero_mul, Nat.zero_add, Nat.zero_add]
    · rw [List.length_append, List.length_replicate]
      omega
  · rw [if_neg small, if_neg small, List.take_append_drop]
    refine ⟨rfl, ?_⟩
    rw [List.length_drop]
    omega

/-- Digits in positional notation, the zeros at the end of the fraction left out. -/
theorem positionalText_eq (other : c ≠ '0') (within : lead < (c :: cs).length) :
    positionalText [] (trimZeros (c :: cs)) lead =
      pointed (wholeOf (c :: cs) lead) (trimZeros (fractionOf (c :: cs) lead)) := by
  have some : trimZeros (c :: cs) ≠ [] := by
    rw [trimZeros_cons other]
    exact List.cons_ne_nil _ _
  obtain ⟨n, split⟩ := exists_trimZeros (c :: cs)
  have last := getLast?_trimZeros (c :: cs)
  unfold positionalText wholeOf fractionOf pointed
  by_cases small : lead < 0
  · rw [if_pos small, if_pos small, if_pos small, trimZeros_append_of_ne_nil _ some,
      if_neg (List.append_ne_nil_of_right_ne_nil _ some)]
    rfl
  · rw [if_neg small, if_neg small, if_neg small]
    generalize trimZeros (c :: cs) = front at some split last ⊢
    rw [split] at within ⊢
    rw [List.length_append, List.length_replicate] at within
    dsimp only
    by_cases short : front.length ≤ lead.toNat + 1
    · rw [if_pos short, List.take_append, List.take_of_length_le short, List.take_replicate, List.drop_append,
        List.drop_of_length_le short, List.nil_append, List.drop_replicate, trimZeros_zeros, if_pos rfl,
        Nat.min_eq_left (by omega)]
    · have rest : front.drop (lead.toNat + 1) ≠ [] := by
        simpa [List.drop_eq_nil_iff] using Nat.lt_of_not_le short
      have trimmed : trimZeros (front.drop (lead.toNat + 1)) = front.drop (lead.toNat + 1) := by
        apply trimZeros_of_getLast?
        rwa [List.getLast?_drop, if_neg short]
      rw [if_neg short, List.take_append_of_le_length (by omega), List.drop_append_of_le_length (by omega),
        trimZeros_append_zeros, trimmed, if_neg rest]

/-- Digits in scientific notation, the zeros at the end of the fraction left out. -/
theorem scientificText_eq (other : c ≠ '0') (cs : List Char) (width : Nat) (lead : Int) :
    scientificText width (trimZeros (c :: cs)) lead = pointed [c] (trimZeros cs) ++ exponentText width lead := by
  unfold scientificText pointed
  rw [trimZeros_cons other]
  cases trimZeros cs <;> rfl

end

/-! ### Exponents -/

/-- The digits of an exponent, of which there are at least two. -/
def exponentDigits (lead : Int) : List Char :=
  List.replicate (2 - (Nat.toDigits 10 lead.natAbs).length) '0' ++ Nat.toDigits 10 lead.natAbs

theorem exponentText_eq (lead : Int) :
    exponentText 2 lead = 'e' :: (if lead < 0 then '-' else '+') :: exponentDigits lead :=
  rfl

theorem digits_exponentDigits (lead : Int) : IsDigits (exponentDigits lead) :=
  (IsDigits.zeros _).append (.toDigits _)

theorem length_exponentDigits (lead : Int) : 2 ≤ (exponentDigits lead).length := by
  unfold exponentDigits
  rw [List.length_append, List.length_replicate]
  omega

theorem digitsValue_exponentDigits (lead : Int) : digitsValue (exponentDigits lead) = lead.natAbs := by
  unfold exponentDigits
  rw [digitsValue_append, digitsValue_zeros, Nat.zero_mul, Nat.zero_add, digitsValue_toDigits]

theorem exponentDigits_ne_nil (lead : Int) : exponentDigits lead ≠ [] := by
  intro none
  have length := length_exponentDigits lead
  rw [none] at length
  exact absurd length (by decide)

theorem readExponent?_of_takeSign {cs ds : List Char} {negative : Bool} (read : takeSign cs = (negative, ds))
    (digits : IsDigits ds) (full : ds ≠ []) :
    readExponent? ('e' :: cs) = some (if negative then -(digitsValue ds : Int) else digitsValue ds) := by
  have all : ds.all Char.isDigit = true := List.all_eq_true.2 digits
  simp [readExponent?, read, full, all]

theorem readExponent?_exponentText (lead : Int) : readExponent? (exponentText 2 lead) = some lead := by
  have digits := digits_exponentDigits lead
  have full := exponentDigits_ne_nil lead
  rw [exponentText_eq]
  by_cases negative : lead < 0
  · have read : takeSign ('-' :: exponentDigits lead) = (true, exponentDigits lead) := rfl
    rw [if_pos negative, readExponent?_of_takeSign read digits full, digitsValue_exponentDigits, if_pos rfl]
    exact congrArg some (by omega)
  · have read : takeSign ('+' :: exponentDigits lead) = (false, exponentDigits lead) := rfl
    rw [if_neg negative, readExponent?_of_takeSign read digits full, digitsValue_exponentDigits,
      if_neg Bool.false_ne_true]
    exact congrArg some (by omega)

/-! ### The layout -/

section

variable {f : Figures}

/-- A number with fifteen figures, in the notation that its leading exponent asks for. -/
theorem figuresText_general {c : Char} {cs : List Char} (digits : Nat.toDigits 10 f.coefficient = c :: cs)
    (other : c ≠ '0') (length : cs.length = 14) :
    generalLayout.figuresText f =
      if -4 ≤ f.lead ∧ f.lead < 15 then
        pointed (wholeOf (c :: cs) f.lead) (trimZeros (fractionOf (c :: cs) f.lead))
      else pointed [c] (trimZeros cs) ++ exponentText 2 f.lead := by
  unfold Layout.figuresText
  have notation_iff : generalLayout.positional f.lead = true ↔ -4 ≤ f.lead ∧ f.lead < 15 := by
    unfold generalLayout
    simp
  rw [digits]
  by_cases positional : -4 ≤ f.lead ∧ f.lead < 15
  · rw [if_pos (notation_iff.2 positional), if_pos positional]
    exact positionalText_eq other (by rw [List.length_cons, length]; omega)
  · rw [if_neg (mt notation_iff.1 positional), if_neg positional]
    exact scientificText_eq other cs 2 f.lead

/-- The text of a positive number with these fifteen figures. -/
structure IsGeneral (f : Figures) (cs : List Char) : Prop where
  /-- It denotes just this number. -/
  denotes : ∃ m e, decimal? cs = some (m, e) ∧ (m : ℚ) * 10 ^ e = f.value 15
  /-- In positional notation the whole part has all its digits. -/
  positional : -4 ≤ f.lead → f.lead < 15 → ∃ fraction,
    cs = pointed (Nat.toDigits 10 ⌊f.value 15⌋₊) fraction ∧ IsDigits fraction ∧ fraction.getLast? ≠ some '0'
  /-- In scientific notation there is one digit before the point, and a sign and two digits at least in the exponent. -/
  scientific : f.lead < -4 ∨ 15 ≤ f.lead → ∃ first fraction exponent,
    cs = pointed [first] fraction ++ 'e' :: (if f.lead < 0 then '-' else '+') :: exponent ∧
      first.isDigit = true ∧ first ≠ '0' ∧ IsDigits fraction ∧ fraction.getLast? ≠ some '0' ∧
      IsDigits exponent ∧ 2 ≤ exponent.length ∧ digitsValue exponent = f.lead.natAbs

theorem Figures.Full.exists_digits (full : f.Full 15) :
    ∃ c cs, Nat.toDigits 10 f.coefficient = c :: cs ∧ c ≠ '0' ∧ cs.length = 14 ∧ IsDigits (c :: cs) ∧
      digitsValue (c :: cs) = f.coefficient := by
  obtain ⟨c, cs, digits, other, length⟩ := exists_toDigits (k := 14) full.low full.high
  refine ⟨c, cs, digits, other, length, ?_, ?_⟩
  · rw [← digits]
    exact .toDigits _
  · rw [← digits, digitsValue_toDigits]

/-- The digits before the point are those of the whole part. -/
theorem toDigits_floor_value (full : f.Full 15) (within : f.lead < 15) :
    Nat.toDigits 10 ⌊f.value 15⌋₊ = wholeOf (Nat.toDigits 10 f.coefficient) f.lead := by
  unfold wholeOf
  by_cases small : f.lead < 0
  · have less : f.value 15 < 1 := by
      calc f.value 15 < 10 ^ (f.lead + 1) := (full.isLeading (by decide)).2
        _ ≤ 10 ^ (0 : ℤ) := zpow_le_zpow_right₀ (by norm_num) (by omega)
        _ = 1 := zpow_zero _
    rw [if_pos small, Nat.floor_eq_zero.2 less, Nat.toDigits_zero]
  · obtain ⟨k, lead⟩ := Int.eq_ofNat_of_zero_le (Int.not_lt.1 small)
    have large : 10 ^ (14 - k) ≤ f.coefficient :=
      Nat.le_trans (Nat.pow_le_pow_right (by decide) (Nat.sub_le 14 k)) full.low
    obtain ⟨t, length, digits⟩ := toDigits_div large
    have all := length_toDigits (k := 14) full.low full.high
    have quotient : f.value 15 = (f.coefficient : ℚ) / (10 ^ (14 - k) : Nat) := by
      unfold Figures.value
      rw [lead, Nat.cast_pow, Nat.cast_ofNat, div_eq_mul_inv, ← zpow_natCast, ← zpow_neg]
      congr 2
      omega
    rw [if_neg small, quotient, Nat.floor_div_eq_div, digits, List.take_left']
    rw [digits, List.length_append, length] at all
    omega

theorem isGeneral_figuresText (full : f.Full 15) : IsGeneral f (generalLayout.figuresText f) := by
  obtain ⟨c, cs, digits, other, length, all, value⟩ := full.exists_digits
  have shape := figuresText_general digits other length
  have count : (c :: cs).length = 15 := by rw [List.length_cons, length]
  by_cases positional : -4 ≤ f.lead ∧ f.lead < 15
  · rw [if_pos positional] at shape
    have within : f.lead < (c :: cs).length := by omega
    obtain ⟨same, places⟩ := value_wholeOf_fractionOf within
    have whole := digits_wholeOf all f.lead
    have fraction := digits_trimZeros (digits_fractionOf all f.lead)
    have read : decimal? (pointed _ _ ++ []) = _ :=
      decimal?_pointed whole (wholeOf_ne_nil (List.cons_ne_nil c cs)) fraction nofun rfl
    rw [List.append_nil] at read
    rw [shape]
    refine ⟨⟨_, _, read, ?_⟩, fun _ _ => ⟨_, ?_, fraction, getLast?_trimZeros _⟩, fun scientific => ?_⟩
    · rw [zero_sub, trimmed_value, same, places, value, count]
      rfl
    · rw [toDigits_floor_value full positional.2, digits]
    · omega
  · rw [if_neg positional] at shape
    have first : IsDigits [c] := all.of_subset (by simp)
    have fraction : IsDigits (trimZeros cs) := digits_trimZeros (all.of_subset (List.subset_cons_self c cs))
    have stop : ∀ c ∈ (exponentText 2 f.lead).head?, c = 'e' := by
      rintro _ ⟨⟩
      rfl
    have read := decimal?_pointed first (List.cons_ne_nil c []) fraction stop (readExponent?_exponentText f.lead)
    rw [shape]
    refine ⟨⟨_, _, read, ?_⟩, fun low high => absurd ⟨low, high⟩ positional, fun _ => ⟨c, _, exponentDigits f.lead, rfl,
      all c List.mem_cons_self, other, fraction, getLast?_trimZeros cs, digits_exponentDigits f.lead,
      length_exponentDigits f.lead, digitsValue_exponentDigits f.lead⟩⟩
    rw [sub_eq_add_neg, add_comm, zpow_add₀ (by norm_num), ← mul_assoc, trimmed_value, List.singleton_append, value,
      length, mul_assoc, ← zpow_add₀ (by norm_num)]
    unfold Figures.value
    congr 2
    push_cast
    ring

end

/-! ### Two roundings -/

/-- The quotient `n / d` with so many decimals, the last of them rounded. -/
def fixedText (decimals n d : Nat) : List Char :=
  let digits := Nat.toDigits 10 (roundDiv .toEven (n * 10 ^ decimals) d)
  let padded := List.replicate (decimals + 1 - digits.length) '0' ++ digits
  if decimals = 0 then padded
  else padded.take (padded.length - decimals) ++ '.' :: padded.drop (padded.length - decimals)

/-- The quotient with one digit before the point, so many decimals, and an exponent. -/
def exponentialText (decimals n d : Nat) : List Char :=
  let f := significant .toEven (decimals + 1) n d
  let digits := Nat.toDigits 10 f.coefficient
  let exponent := (if f.lead < 0 then ['-'] else []) ++ Nat.toDigits 10 f.lead.natAbs
  digits.take 1 ++ '.' :: digits.drop 1 ++ 'e' :: exponent

/-- The text without the zeros at the end of its fraction, and without a point after that. -/
def trimFraction (cs : List Char) : List Char :=
  if '.' ∈ cs then (trimZeros cs).rdropWhile (· = '.') else cs

/-- The quotient behind a sign, by two roundings: the first one finds the exponent, and if that is not to be written,
the second one rounds again, to the decimals that are left of fifteen figures. -/
def twice (sign : List Char) (n d : Nat) : List Char :=
  let first := sign ++ exponentialText 14 n d
  match Text.cut? 'e' first with
  | none => first
  | some (coefficient, exponent) => match readExponent? ('e' :: exponent) with
    | none => first
    | some e =>
      if e < -4 ∨ 15 ≤ e then
        trimFraction coefficient ++ 'e' :: (if e < 0 then '-' else '+') :: exponentDigits e
      else trimFraction (sign ++ fixedText (14 - e).toNat n d)

section

variable {whole fraction sign : List Char}

theorem trimFraction_of_not_mem (none : '.' ∉ whole) : trimFraction whole = whole :=
  if_neg none

theorem trimFraction_point (none : '.' ∉ whole) (digits : IsDigits fraction) :
    trimFraction (whole ++ '.' :: fraction) = pointed whole (trimZeros fraction) := by
  have point : trimZeros ('.' :: fraction) = '.' :: trimZeros fraction := trimZeros_cons (by decide) fraction
  have some : trimZeros ('.' :: fraction) ≠ [] := by
    rw [point]
    exact List.cons_ne_nil _ _
  unfold trimFraction pointed
  rw [if_pos (by simp), trimZeros_append_of_ne_nil whole some, point]
  by_cases empty : trimZeros fraction = []
  · rw [empty, if_pos rfl, List.append_nil, List.rdropWhile_concat_pos _ _ _ (by decide), List.rdropWhile_eq_self_iff]
    intro full dot
    rw [decide_eq_true_eq] at dot
    exact none (dot ▸ List.getLast_mem full)
  · rw [if_neg empty, List.rdropWhile_eq_self_iff]
    intro full dot
    rw [decide_eq_true_eq, List.getLast_append_of_ne_nil _ (List.cons_ne_nil _ _), List.getLast_cons empty] at dot
    have digit := digits_trimZeros digits _ (List.getLast_mem empty)
    rw [dot] at digit
    cases digit

theorem pointed_nil (whole : List Char) : pointed whole [] = whole := by
  unfold pointed
  rw [if_pos rfl, List.append_nil]

theorem pointed_append (sign whole fraction : List Char) :
    pointed (sign ++ whole) fraction = sign ++ pointed whole fraction := by
  unfold pointed
  rw [List.append_assoc]

variable {n d : Nat}

/-- The second rounding gives the digits of the first one. -/
theorem fixedText_eq (hn : 0 < n) (hd : 0 < d) {f : Figures} (figures : significant .toEven 15 n d = f)
    (within : f.lead < 15) :
    let ds := Nat.toDigits 10 f.coefficient
    fixedText (14 - f.lead).toNat n d =
      wholeOf ds f.lead ++ if f.lead = 14 then [] else '.' :: fractionOf ds f.lead := by
  intro ds
  have full : f.Full 15 := figures ▸ (significant_roundsTo (by decide) hn hd).full
  have length : ds.length = 15 := length_toDigits (k := 14) full.low full.high
  have rounded : roundDiv .toEven (n * 10 ^ (14 - f.lead).toNat) d = f.coefficient := by
    have same := roundDiv_shifted_lead (by decide : 0 < 15) hn hd
    have none : (-(14 - f.lead)).toNat = 0 := by omega
    dsimp only at same
    rw [figures, show ((15 : Nat) : ℤ) - 1 - f.lead = 14 - f.lead by omega] at same
    unfold shifted at same
    rw [none] at same
    rwa [show d * Nat.pow 10 0 = d from Nat.mul_one d] at same
  unfold fixedText wholeOf fractionOf
  dsimp only
  rw [rounded]
  show (if _ then List.replicate (_ - ds.length) '0' ++ ds else _) = _
  generalize f.lead = lead at within
  rw [length]
  by_cases small : lead < 0
  · obtain ⟨j, zeros⟩ : ∃ j, (14 - lead).toNat + 1 - 15 = j + 1 := ⟨(-lead).toNat - 1, by omega⟩
    rw [if_neg (by omega), if_pos small, if_pos small, if_neg (by omega), zeros, List.length_append,
      List.length_replicate, length, show j + 1 + 15 - (14 - lead).toNat = 1 by omega,
      show (-lead).toNat - 1 = j by omega]
    rfl
  · rw [if_neg small, if_neg small, show (14 - lead).toNat + 1 - 15 = 0 by omega, List.replicate_zero, List.nil_append]
    by_cases last : lead = 14
    · rw [if_pos (by omega), if_pos last, List.append_nil, List.take_of_length_le (by omega)]
    · rw [if_neg (by omega), if_neg last, length, show 15 - (14 - lead).toNat = lead.toNat + 1 by omega]

theorem takeSign_digits {ds : List Char} (digits : IsDigits ds) : takeSign ds = (false, ds) := by
  unfold takeSign
  split
  · exact absurd List.mem_cons_self (digits.not_mem (c := '-') rfl)
  · exact absurd List.mem_cons_self (digits.not_mem (c := '+') rfl)
  · rfl

/-- The exponent as the first rounding writes it. -/
theorem readExponent?_toDigits (lead : Int) :
    readExponent? ('e' :: ((if lead < 0 then ['-'] else []) ++ Nat.toDigits 10 lead.natAbs)) = some lead := by
  have digits := IsDigits.toDigits lead.natAbs
  have full : Nat.toDigits 10 lead.natAbs ≠ [] := Nat.toDigits_ne_nil
  by_cases negative : lead < 0
  · have read : takeSign (['-'] ++ Nat.toDigits 10 lead.natAbs) = (true, Nat.toDigits 10 lead.natAbs) := rfl
    rw [if_pos negative, readExponent?_of_takeSign read digits full, digitsValue_toDigits, if_pos rfl]
    exact congrArg some (by omega)
  · rw [if_neg negative, List.nil_append, readExponent?_of_takeSign (takeSign_digits digits) digits full,
      digitsValue_toDigits, if_neg Bool.false_ne_true]
    exact congrArg some (by omega)

/-- The two roundings come to the figures of the layout. -/
theorem twice_eq (hn : 0 < n) (hd : 0 < d) (hs : sign = [] ∨ sign = ['-']) :
    twice sign n d = sign ++ generalLayout.figuresText (significant .toEven 15 n d) := by
  generalize figures : significant .toEven 15 n d = f
  have full : f.Full 15 := figures ▸ (significant_roundsTo (by decide) hn hd).full
  obtain ⟨c, cs, digits, other, length, all, value⟩ := full.exists_digits
  have signless (x : Char) (mark : x ≠ '-') : x ∉ sign := by
    rcases hs with rfl | rfl <;> simp [mark]
  have noPoint (ds : List Char) (digits : IsDigits ds) : '.' ∉ sign ++ ds := by
    rw [List.mem_append, not_or]
    exact ⟨signless '.' (by decide), digits.not_mem rfl⟩
  have first : sign ++ exponentialText 14 n d =
      (sign ++ [c] ++ '.' :: cs) ++ 'e' :: ((if f.lead < 0 then ['-'] else []) ++ Nat.toDigits 10 f.lead.natAbs) := by
    unfold exponentialText
    dsimp only
    rw [figures, digits]
    simp
  have noMark : 'e' ∉ sign ++ [c] ++ '.' :: cs := by
    have inDigits : 'e' ∉ c :: cs := all.not_mem rfl
    simp only [List.mem_append, List.mem_cons, List.not_mem_nil, or_false, not_or] at inDigits ⊢
    exact ⟨⟨signless 'e' (by decide), inDigits.1⟩, by decide, inDigits.2⟩
  unfold twice
  dsimp only
  rw [first, Text.cut?_append_cons noMark]
  dsimp only
  rw [readExponent?_toDigits, figuresText_general digits other length]
  dsimp only
  by_cases positional : -4 ≤ f.lead ∧ f.lead < 15
  · rw [if_neg (by omega), if_pos positional, fixedText_eq hn hd figures positional.2, digits, ← List.append_assoc]
    have whole := noPoint _ (digits_wholeOf all f.lead)
    by_cases last : f.lead = 14
    · have none : fractionOf (c :: cs) f.lead = [] := by
        unfold fractionOf
        rw [if_neg (by omega), last, List.drop_of_length_le]
        rw [List.length_cons, length]
        decide
      rw [if_pos last, List.append_nil, trimFraction_of_not_mem whole, none,
        show trimZeros [] = [] from rfl, pointed_nil]
    · rw [if_neg last, trimFraction_point whole (digits_fractionOf all f.lead), pointed_append]
  · rw [if_pos (by omega), if_neg positional, trimFraction_point (noPoint [c] (all.of_subset (by simp)))
      (all.of_subset (List.subset_cons_self c cs)), pointed_append, exponentText_eq, List.append_assoc]

end

/-! ### Exact values -/

open Float.Model (UnpackedFloat Format)
open Float.Model.UnpackedFloat

/-- The number that a finite double is. -/
def exact (v : Float) : ℚ :=
  match v.toModel.unpack with
  | .finite .positive m e _ => m * 2 ^ e
  | .finite .negative m e _ => -(m * 2 ^ e)
  | _ => 0

theorem Dyadic.num_div_den (d : Dyadic) : (d.num : ℚ) / d.den = d.mantissa * 2 ^ d.exponent := by
  obtain ⟨m, e⟩ := d
  unfold num den
  dsimp only
  rcases Int.eq_nat_or_neg e with ⟨k, rfl | rfl⟩
  · simp
  · simp [div_eq_mul_inv]

/-- The bits of a double as a number. -/
theorem toNat_ofFields (s : Sign) (e : BitVec 11) (m : BitVec 52) :
    (ofFields s e m).toNat = (s.toBitVec.toNat * 2 ^ 11 + e.toNat) * 2 ^ 52 + m.toNat := by
  unfold ofFields packComponents
  rw [BitVec.toNat_append, BitVec.toNat_append, ← Nat.shiftLeft_add_eq_or_of_lt m.isLt,
    ← Nat.shiftLeft_add_eq_or_of_lt e.isLt, Nat.shiftLeft_eq, Nat.shiftLeft_eq]

/-- The fields of a double are read off its bits. -/
theorem magnitude_of_fields {v : Float} {s : Sign} {e : BitVec 11} {m : BitVec 52}
    (fields : v.toModel.toBits.toBitVec = ofFields s e m) :
    magnitude v = (if e.toNat = 0 then ⟨m.toNat, -1074⟩ else ⟨2 ^ 52 + m.toNat, (e.toNat : Int) - 1075⟩) ∧
      (isNegative v = true ↔ s = .negative) := by
  have bits : v.toBits.toNat = (s.toBitVec.toNat * 2 ^ 11 + e.toNat) * 2 ^ 52 + m.toNat := by
    rw [← toNat_ofFields, ← fields]
    rfl
  have signLimit := s.toBitVec.isLt
  have exponentLimit := e.isLt
  have mantissaLimit := m.isLt
  have biased : v.toBits.toNat / hiddenBit % 0x800 = e.toNat := by
    unfold hiddenBit
    omega
  have fraction : v.toBits.toNat % hiddenBit = m.toNat := by
    unfold hiddenBit
    omega
  have sign : v.toBits.toNat / 0x8000000000000000 = s.toBitVec.toNat := by omega
  constructor
  · unfold magnitude
    dsimp only
    rw [biased, fraction]
    rfl
  · unfold isNegative
    rw [sign, beq_iff_eq]
    cases s with
    | positive => exact ⟨nofun, nofun⟩
    | negative => exact ⟨fun _ => rfl, fun _ => rfl⟩

theorem magnitude_of_unpack {v : Float} {s : Sign} {m : Nat} {e : Int} {positive : 0 < m}
    (read : v.toModel.unpack = .finite s m e positive) :
    magnitude v = ⟨m, e⟩ ∧ (isNegative v = true ↔ s = .negative) := by
  obtain ⟨s', e', m', fields⟩ := exists_fields v.toModel.toBits.toBitVec
  obtain ⟨size, sign⟩ := magnitude_of_fields fields
  have unpacked : unpack .binary64 (ofFields s' e' m') = .finite s m e positive := by
    rw [← fields]
    exact read
  have least : e' = 0#11 ↔ e'.toNat = 0 := by rw [← BitVec.toNat_inj]; rfl
  rw [unpack_ofFields] at unpacked
  split at unpacked
  · split at unpacked <;> cases unpacked
  · split at unpacked
    · split at unpacked
      · cases unpacked
      · rename_i zero _
        cases unpacked
        rw [if_pos (least.1 zero)] at size
        exact ⟨size, sign⟩
    · rename_i normal
      cases unpacked
      rw [if_neg (mt least.2 normal)] at size
      exact ⟨size, sign⟩

/-- A finite double that is no zero has a mantissa. -/
theorem exists_of_nonzero {v : Float} (finite : v.isFinite = true) (nonzero : (v == 0) = false) :
    ∃ s m e positive, v.toModel.unpack = .finite s m e positive := by
  rcases exists_of_isFinite finite with ⟨s, read⟩ | found
  · have zero : (v == 0) = true := by
      show Float.Model.beq v.toModel (0 : Float).toModel = true
      unfold Float.Model.beq
      rw [read]
      cases s <;> rfl
    rw [zero] at nonzero
    cases nonzero
  · exact found

section

variable {v : Float} {s : Sign} {m : Nat} {e : Int} {positive : 0 < m}

/-- The size of a double, and its sign. -/
theorem exact_of_unpack (read : v.toModel.unpack = .finite s m e positive) :
    |exact v| = ((magnitude v).num : ℚ) / (magnitude v).den ∧ 0 < |exact v| ∧
      (isNegative v = true ↔ exact v < 0) := by
  obtain ⟨size, sign⟩ := magnitude_of_unpack read
  have some : (0 : ℚ) < m * 2 ^ e := by
    have : (0 : ℚ) < m := by exact_mod_cast positive
    positivity
  have value : ((magnitude v).num : ℚ) / (magnitude v).den = m * 2 ^ e := by rw [size, Dyadic.num_div_den]
  rw [value, sign]
  unfold exact
  rw [read]
  cases s with
  | positive =>
    dsimp only
    rw [abs_of_pos some]
    exact ⟨rfl, some, nofun, fun negative => absurd negative some.not_gt⟩
  | negative =>
    dsimp only
    rw [abs_neg, abs_of_pos some]
    exact ⟨rfl, some, fun _ => neg_neg_of_pos some, fun _ => rfl⟩

theorem general_eq (read : v.toModel.unpack = .finite s m e positive) :
    (general v).toList = (if exact v < 0 then ['-'] else []) ++
      generalLayout.figuresText (significant .toEven 15 (magnitude v).num (magnitude v).den) := by
  obtain ⟨size, -⟩ := magnitude_of_unpack read
  obtain ⟨-, -, sign⟩ := exact_of_unpack read
  have number : v.isNaN = false := by
    show v.toModel.unpack.isNaN = false
    rw [read]
    rfl
  have bounded : v.isInf = false := by
    show v.toModel.unpack.isInf = false
    rw [read]
    rfl
  have text : generalLayout.sizeText v =
      generalLayout.figuresText (significant .toEven 15 (magnitude v).num (magnitude v).den) := by
    unfold Layout.sizeText
    rw [bounded, if_neg Bool.false_ne_true]
    dsimp only
    rw [if_neg (by rw [size]; exact positive.ne')]
    rfl
  unfold general Layout.text
  rw [number, if_neg Bool.false_ne_true, String.toList_ofList, text]
  by_cases negative : exact v < 0
  · rw [if_pos (sign.2 negative), if_pos negative]
    rfl
  · rw [if_neg (mt sign.1 negative), if_neg negative]
    rfl

end

theorem takeSign_pointed {whole : List Char} (digits : IsDigits whole) (some : whole ≠ [])
    (fraction rest : List Char) :
    takeSign (pointed whole fraction ++ rest) = (false, pointed whole fraction ++ rest) := by
  obtain ⟨c, cs, rfl⟩ := List.exists_cons_of_ne_nil some
  have first : IsDigits [c] := digits.of_subset (by simp)
  unfold pointed
  rw [List.cons_append, List.cons_append]
  unfold takeSign
  split
  · rename_i split
    cases split
    exact absurd List.mem_cons_self (first.not_mem (c := '-') rfl)
  · rename_i split
    cases split
    exact absurd List.mem_cons_self (first.not_mem (c := '+') rfl)
  · rfl

theorem IsGeneral.takeSign_eq {f : Figures} {cs : List Char} (general : IsGeneral f cs) :
    takeSign cs = (false, cs) := by
  by_cases positional : -4 ≤ f.lead ∧ f.lead < 15
  · obtain ⟨fraction, shape, -⟩ := general.positional positional.1 positional.2
    have unsigned := takeSign_pointed (.toDigits ⌊f.value 15⌋₊) Nat.toDigits_ne_nil fraction []
    rwa [List.append_nil, ← shape] at unsigned
  · obtain ⟨first, fraction, exponent, shape, digit, -⟩ := general.scientific (by omega)
    have digits : IsDigits [first] := fun c mem => List.mem_singleton.1 mem ▸ digit
    rw [shape]
    exact takeSign_pointed digits (List.cons_ne_nil first []) fraction _

/-- A sign in front of a numeral. -/
theorem denoted?_sign {f : Figures} {cs : List Char} (general : IsGeneral f cs) (negative : Prop)
    [Decidable negative] :
    denoted? ((if negative then ['-'] else []) ++ cs) =
      some (if negative then -f.value 15 else f.value 15) := by
  obtain ⟨m, e, read, value⟩ := general.denotes
  have unsigned := general.takeSign_eq
  have signed : takeSign ('-' :: cs) = (true, cs) := rfl
  unfold denoted?
  by_cases below : negative
  · rw [if_pos below, if_pos below, List.singleton_append, signed]
    dsimp only
    rw [read, Option.map_some, if_pos rfl, value]
  · rw [if_neg below, if_neg below, List.nil_append, unsigned]
    dsimp only
    rw [read, Option.map_some, if_neg Bool.false_ne_true, value]

/-- The text of a finite double that is no zero, behind its sign, is that of the one number of fifteen figures that is
nearest to its exact value, and so is what comes of two roundings. -/
theorem general_figures {v : Float} (finite : v.isFinite = true) (nonzero : (v == 0) = false) :
    ∃ f : Figures, RoundsTo 15 |exact v| f ∧ (∀ g, RoundsTo 15 |exact v| g → g = f) ∧
      10 ^ f.lead ≤ f.value 15 ∧ f.value 15 < 10 ^ (f.lead + 1) ∧
      denoted? (general v).toList = some (if exact v < 0 then -f.value 15 else f.value 15) ∧
      (∃ cs, (general v).toList = (if exact v < 0 then ['-'] else []) ++ cs ∧ IsGeneral f cs) ∧
      (general v).toList = twice (if exact v < 0 then ['-'] else []) (magnitude v).num (magnitude v).den := by
  obtain ⟨s, m, e, positive, read⟩ := exists_of_nonzero finite nonzero
  obtain ⟨size, some, sign⟩ := exact_of_unpack read
  have den := (magnitude v).den_pos
  have num : 0 < (magnitude v).num := by
    rw [size] at some
    have := (div_pos_iff_of_pos_right (by exact_mod_cast den)).1 some
    exact_mod_cast this
  have rounds := significant_roundsTo (by decide : 1 < 15) num den
  rw [← size] at rounds
  have text := general_eq read
  have general := isGeneral_figuresText rounds.full
  obtain ⟨low, high⟩ := rounds.full.isLeading (by decide)
  refine ⟨_, rounds, fun g other => other.unique (by decide) rounds, low, high, ?_, ⟨_, text, general⟩, ?_⟩
  · rw [text]
    exact denoted?_sign general _
  · rw [text, twice_eq num den]
    split
    · exact .inr rfl
    · exact .inl rfl

/-- Sixteen figures that are rounded up to the next power of ten. -/
theorem general_figures_carry :
    let v : Float := 99999.99999999999
    v.isFinite = true ∧ (v == 0) = false ∧ general v = "100000" ∧
      ∃ f, RoundsTo 15 |exact v| f ∧
        denoted? "100000".toList = some (if exact v < 0 then -f.value 15 else f.value 15) := by
  intro v
  have finite : v.isFinite = true := by decide +kernel
  have nonzero : (v == 0) = false := by decide +kernel
  have text : general v = "100000" := by decide +kernel
  obtain ⟨f, rounds, -, -, -, denotes, -⟩ := general_figures finite nonzero
  rw [text] at denotes
  exact ⟨finite, nonzero, text, f, rounds, denotes⟩

end MetricFeed.Number
