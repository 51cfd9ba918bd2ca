import MetricFeed.Number.Decimal
import Mathlib

/-!
# Numbers of so many figures

The numbers with a given count of figures form a grid that is finer the smaller they are.  What `significant` gives is
the number of this grid that is nearest to the quotient, and of two that are equally near the one whose coefficient is
even (`significant_roundsTo`); there is only one such number (`RoundsTo.unique`).  Its leading exponent is the one
after the rounding, and to round at the last figure under that exponent gives the same coefficient
(`roundDiv_shifted_lead`).
-/

namespace MetricFeed.Number

/-! ### Rounding to a whole number -/

section

variable {n d : Nat}

theorem abs_roundDiv_sub_le (tie : Tie) (hd : 0 < d) : |(roundDiv tie n d : ℚ) - n / d| ≤ 1 / 2 := by
  have pos : (0 : ℚ) < d := by exact_mod_cast hd
  have upper : (2 : ℚ) * (roundDiv tie n d * d) ≤ 2 * n + d := by exact_mod_cast roundDiv_upper tie hd
  have lower : (2 : ℚ) * n ≤ 2 * (roundDiv tie n d * d) + d := by exact_mod_cast roundDiv_lower tie hd
  have whole : (n : ℚ) / d * d = n := div_mul_cancel₀ _ pos.ne'
  rw [abs_le]
  constructor
  · nlinarith
  · nlinarith

/-- A value halfway between two whole numbers goes to the even one. -/
theorem even_roundDiv (hd : 0 < d) (half : |(roundDiv .toEven n d : ℚ) - n / d| = 1 / 2) :
    Even (roundDiv .toEven n d) := by
  have pos : (0 : ℚ) < d := by exact_mod_cast hd
  have whole : (n : ℚ) / d * d = n := div_mul_cancel₀ _ pos.ne'
  have middle : 2 * (roundDiv .toEven n d * d) = 2 * n + d ∨ 2 * n = 2 * (roundDiv .toEven n d * d) + d := by
    rcases eq_or_eq_neg_of_abs_eq half with up | down
    · left
      have : (2 : ℚ) * (roundDiv .toEven n d * d) = 2 * n + d := by
        linear_combination 2 * d * up + 2 * whole
      exact_mod_cast this
    · right
      have : (2 : ℚ) * n = 2 * (roundDiv .toEven n d * d) + d := by
        linear_combination -2 * d * down - 2 * whole
      exact_mod_cast this
  have split := Nat.div_add_mod n d
  have comm : d * (n / d) = n / d * d := Nat.mul_comm _ _
  have small := Nat.mod_lt n hd
  unfold roundDiv at middle ⊢
  dsimp only at middle ⊢
  by_cases below : 2 * (n % d) < d
  · rw [if_pos below] at middle
    omega
  · rw [if_neg below] at middle ⊢
    by_cases above : d < 2 * (n % d)
    · rw [if_pos above, Nat.add_mul] at middle
      omega
    · rw [if_neg above, Nat.even_iff]
      omega

/-- A whole number is no nearer than the one that a value is rounded to. -/
theorem abs_sub_le_of_near {x : ℚ} {r k : ℤ} (near : |(r : ℚ) - x| ≤ 1 / 2) :
    |(r : ℚ) - x| ≤ |(k : ℚ) - x| := by
  by_cases same : k = r
  · rw [same]
  · have apart : (1 : ℚ) ≤ |(k : ℚ) - r| := by
      exact_mod_cast Int.one_le_abs (sub_ne_zero.2 same)
    have through := abs_sub_le (k : ℚ) x r
    rw [abs_sub_comm x] at through
    linarith

/-- Another whole number that is as near is at the other side, half a unit away. -/
theorem abs_sub_eq_half {x : ℚ} {r k : ℤ} (near : |(r : ℚ) - x| ≤ 1 / 2) (other : k ≠ r)
    (same : |(k : ℚ) - x| = |(r : ℚ) - x|) : |(r : ℚ) - x| = 1 / 2 := by
  have apart : (1 : ℚ) ≤ |(k : ℚ) - r| := by
    exact_mod_cast Int.one_le_abs (sub_ne_zero.2 other)
  have through := abs_sub_le (k : ℚ) x r
  rw [abs_sub_comm x] at through
  linarith

theorem roundDiv_eq_of_near (tie : Tie) (hd : 0 < d) {k : Nat} (near : |(k : ℚ) - n / d| < 1 / 2) :
    roundDiv tie n d = k := by
  by_contra other
  have apart : (1 : ℚ) ≤ |((roundDiv tie n d : ℤ) : ℚ) - (k : ℤ)| := by
    exact_mod_cast Int.one_le_abs (sub_ne_zero.2 (Nat.cast_injective.ne other))
  have rounded : |(roundDiv tie n d : ℚ) - n / d| ≤ 1 / 2 := abs_roundDiv_sub_le tie hd
  have through := abs_sub_le (roundDiv tie n d : ℚ) (n / d) k
  rw [abs_sub_comm (n / d : ℚ)] at through
  push_cast at apart
  linarith

end

/-! ### The leading exponent -/

/-- `e` is the exponent of the first figure of `q`. -/
def IsLeading (q : ℚ) (e : ℤ) : Prop :=
  10 ^ e ≤ q ∧ q < 10 ^ (e + 1)

theorem IsLeading.le_of_le {q r : ℚ} {e e' : ℤ} (h : IsLeading q e) (h' : IsLeading r e') (le : q ≤ r) : e ≤ e' := by
  have below : (10 : ℚ) ^ e < 10 ^ (e' + 1) := h.1.trans_lt (le.trans_lt h'.2)
  have := (zpow_lt_zpow_iff_right₀ (by norm_num)).1 below
  omega

theorem IsLeading.unique {q : ℚ} {e e' : ℤ} (h : IsLeading q e) (h' : IsLeading q e') : e = e' :=
  le_antisymm (h.le_of_le h' le_rfl) (h'.le_of_le h le_rfl)

section

variable {n d : Nat}

theorem stepsTo_spec {fuel : Nat} (enough : d ≤ n * 10 ^ fuel) :
    d ≤ n * 10 ^ stepsTo fuel n d ∧ ∀ k < stepsTo fuel n d, n * 10 ^ k < d := by
  induction fuel generalizing n with
  | zero => exact ⟨enough, nofun⟩
  | succ fuel ih =>
    unfold stepsTo
    by_cases reached : d ≤ n
    · rw [if_pos reached]
      exact ⟨by simpa using reached, nofun⟩
    · rw [if_neg reached]
      have next (k : Nat) : n * 10 * 10 ^ k = n * 10 ^ (k + 1) := by rw [pow_succ, Nat.mul_assoc, Nat.mul_comm 10]
      obtain ⟨at_end, before⟩ := ih (n := n * 10) (by rw [next]; exact enough)
      refine ⟨by rw [← next]; exact at_end, fun k hk => ?_⟩
      cases k with
      | zero => simpa using reached
      | succ k =>
        rw [← next]
        exact before k (Nat.lt_of_succ_lt_succ hk)

theorem isLeading_leading (hn : 0 < n) (hd : 0 < d) : IsLeading (n / d) (leading n d) := by
  have pos : (0 : ℚ) < d := by exact_mod_cast hd
  unfold IsLeading leading
  by_cases large : d ≤ n
  · rw [if_pos large]
    generalize length : (Nat.toDigits 10 (n / d)).length = l
    have some : 0 < l := by
      rw [← length]
      exact Nat.length_toDigits_pos
    have high : n / d < 10 ^ l := (Nat.length_toDigits_le_iff (by decide) some).1 length.le
    have low : 10 ^ (l - 1) ≤ n / d := by
      rcases Nat.eq_zero_or_pos (l - 1) with none | more
      · rw [none]
        exact Nat.div_pos large hd
      · by_contra short
        have le := (Nat.length_toDigits_le_iff (by decide) more).2 (Nat.lt_of_not_le short)
        omega
    have next : ((l - 1 : Nat) : ℤ) + 1 = (l : Nat) := by omega
    rw [next, zpow_natCast, zpow_natCast, le_div_iff₀ pos, div_lt_iff₀ pos]
    constructor
    · exact_mod_cast (Nat.le_div_iff_mul_le hd).1 low
    · exact_mod_cast (Nat.div_lt_iff_lt_mul hd).1 high
  · rw [if_neg large]
    have enough : d ≤ n * 10 ^ (d.log2 + 1) := by
      calc d ≤ 2 ^ (d.log2 + 1) := Nat.lt_log2_self.le
        _ ≤ 10 ^ (d.log2 + 1) := Nat.pow_le_pow_left (by decide) _
        _ ≤ n * 10 ^ (d.log2 + 1) := Nat.le_mul_of_pos_left _ hn
    obtain ⟨reached, before⟩ := stepsTo_spec enough
    generalize stepsTo (d.log2 + 1) n d = k at reached before
    have some : 0 < k := by
      rcases Nat.eq_zero_or_pos k with rfl | some
      · exact absurd (by simpa using reached) large
      · exact some
    have next : -(k : ℤ) + 1 = -((k - 1 : Nat) : ℤ) := by omega
    rw [next, zpow_neg, zpow_neg, zpow_natCast, zpow_natCast, le_div_iff₀ pos, div_lt_iff₀ pos]
    constructor
    · rw [inv_mul_le_iff₀ (by positivity), mul_comm]
      exact_mod_cast reached
    · rw [lt_inv_mul_iff₀ (by positivity), mul_comm]
      exact_mod_cast before (k - 1) (by omega)

theorem shifted_div (n d : Nat) (p : ℤ) :
    ((shifted n d p).1 : ℚ) / (shifted n d p).2 = n / d * 10 ^ p := by
  unfold shifted
  rcases Int.eq_nat_or_neg p with ⟨k, rfl | rfl⟩
  · simp [mul_div_right_comm]
  · simp only [Int.toNat_neg_natCast, Int.neg_neg, Int.toNat_natCast, zpow_neg, zpow_natCast, Nat.pow_eq, pow_zero,
      Nat.mul_one, Nat.cast_mul, Nat.cast_pow, Nat.cast_ofNat]
    rw [← div_div, div_eq_mul_inv _ (10 ^ k : ℚ)]

theorem shifted_pos (hd : 0 < d) (p : ℤ) : 0 < (shifted n d p).2 :=
  Nat.mul_pos hd (Nat.pow_pos (by decide))

end

/-! ### Grids -/

namespace Figures

/-- The number with these figures, of which there are `count`. -/
def value (count : Nat) (f : Figures) : ℚ :=
  f.coefficient * 10 ^ (f.lead - (count - 1 : ℤ))

/-- There are `count` figures, the first of which is not zero. -/
structure Full (count : Nat) (f : Figures) : Prop where
  low : 10 ^ (count - 1) ≤ f.coefficient
  high : f.coefficient < 10 ^ count

variable {count : Nat} {f g : Figures}

/-- The distance of neighbours on the grid. -/
def unit (count : Nat) (lead : ℤ) : ℚ :=
  10 ^ (lead - (count - 1 : ℤ))

theorem unit_pos (count : Nat) (lead : ℤ) : 0 < unit count lead := by
  unfold unit
  positivity

theorem value_eq (count : Nat) (f : Figures) : f.value count = f.coefficient * unit count f.lead :=
  rfl

theorem pow_mul_unit (some : 0 < count) (lead : ℤ) : (10 ^ (count - 1) : Nat) * unit count lead = 10 ^ lead := by
  unfold unit
  rw [Nat.cast_pow, Nat.cast_ofNat, ← zpow_natCast, ← zpow_add₀ (by norm_num)]
  congr 1
  omega

theorem Full.isLeading (full : f.Full count) (some : 0 < count) : IsLeading (f.value count) f.lead := by
  have pos := unit_pos count f.lead
  have low : ((10 ^ (count - 1) : Nat) : ℚ) ≤ f.coefficient := by exact_mod_cast full.low
  have high : (f.coefficient : ℚ) < (10 ^ (count - 1) : Nat) * 10 := by
    have split : (10 ^ (count - 1) * 10 : Nat) = 10 ^ count := by rw [← pow_succ, Nat.sub_add_cancel some]
    exact_mod_cast split ▸ full.high
  constructor
  · rw [value_eq, ← pow_mul_unit some]
    exact mul_le_mul_of_nonneg_right low pos.le
  · rw [value_eq, zpow_add_one₀ (by norm_num), ← pow_mul_unit some, mul_right_comm]
    exact mul_lt_mul_of_pos_right high pos

theorem Full.eq_of_value_eq (hf : f.Full count) (hg : g.Full count) (some : 0 < count)
    (same : f.value count = g.value count) : f = g := by
  obtain ⟨c, lead⟩ := f
  obtain ⟨c', lead'⟩ := g
  have leads : lead = lead' := (hf.isLeading some).unique (same ▸ hg.isLeading some)
  subst leads
  have coefficients : (c : ℚ) = c' := mul_right_cancel₀ (unit_pos count lead).ne' same
  rw [Nat.cast_injective coefficients]

/-- A number of a coarser grid is one of this grid, too. -/
theorem exists_value_eq {e : ℤ} (coarse : e ≤ f.lead) : ∃ k : ℤ, f.value count = k * unit count e := by
  obtain ⟨n, steps⟩ := Int.eq_ofNat_of_zero_le (sub_nonneg.2 coarse)
  refine ⟨f.coefficient * 10 ^ n, ?_⟩
  rw [value_eq]
  unfold unit
  rw [show f.lead - (count - 1 : ℤ) = n + (e - (count - 1 : ℤ)) by omega, zpow_add₀ (by norm_num), zpow_natCast]
  push_cast
  ring

end Figures

/-! ### The nearest number -/

open Figures (Full unit unit_pos pow_mul_unit value_eq exists_value_eq)

/-- The number is nearest to `q` on the grid of `count` figures; of two that are equally near it is the even one. -/
structure RoundsTo (count : Nat) (q : ℚ) (f : Figures) : Prop where
  full : f.Full count
  nearest : ∀ g : Figures, g.Full count → |f.value count - q| ≤ |g.value count - q|
  even : ∀ g : Figures, g.Full count → g ≠ f → |g.value count - q| = |f.value count - q| → Even f.coefficient

section

variable {count n d : Nat}

/-- Of two different ones the smaller would have an even coefficient, and the number after it would be nearer. -/
private theorem not_lt_of_roundsTo {q : ℚ} {f g : Figures} (some : 0 < count) (hf : RoundsTo count q f)
    (hg : RoundsTo count q g) : ¬f.value count < g.value count := by
  intro less
  have tied : |f.value count - q| = |g.value count - q| := le_antisymm (hf.nearest g hg.full) (hg.nearest f hf.full)
  have other : g ≠ f := by
    rintro rfl
    exact lt_irrefl _ less
  have evenF := hf.even g hg.full other tied.symm
  have evenG := hg.even f hf.full other.symm tied
  have full : (⟨f.coefficient + 1, f.lead⟩ : Figures).Full count := by
    have high := hf.full.high
    have even : Even (10 ^ count) := (by decide : Even 10).pow_of_ne_zero some.ne'
    refine ⟨Nat.le_succ_of_le hf.full.low, Nat.lt_of_le_of_ne high fun last => ?_⟩
    rw [← last] at even
    exact Nat.not_even_iff_odd.2 evenF.add_one even
  -- the larger one is a multiple of the unit of the smaller one, so it is not less than the number after that
  obtain ⟨k, multiple⟩ : ∃ k : ℤ, g.value count = k * unit count f.lead :=
    exists_value_eq ((hf.full.isLeading some).le_of_le (hg.full.isLeading some) less.le)
  have pos := unit_pos count f.lead
  have next : (⟨f.coefficient + 1, f.lead⟩ : Figures).value count = f.value count + unit count f.lead := by
    rw [value_eq, value_eq, Nat.cast_succ, add_mul, one_mul]
  have reached : f.value count + unit count f.lead ≤ g.value count := by
    rw [multiple, value_eq] at less ⊢
    have above : ((f.coefficient : ℤ) : ℚ) < k := (mul_lt_mul_iff_left₀ pos).1 less
    have above : ((f.coefficient + 1 : ℤ) : ℚ) ≤ k := by exact_mod_cast Int.cast_lt.1 above
    calc (f.coefficient : ℚ) * unit count f.lead + unit count f.lead
        = ((f.coefficient + 1 : ℤ) : ℚ) * unit count f.lead := by push_cast; ring
      _ ≤ k * unit count f.lead := mul_le_mul_of_nonneg_right above pos.le
  have near := hf.nearest _ full
  rw [next] at near
  have middle : f.value count - q = -(g.value count - q) := by
    rcases abs_eq_abs.1 tied with same | opposite
    · linarith
    · exact opposite
  have left : f.value count - q < 0 := by linarith
  rw [abs_of_neg left] at near
  have same : (⟨f.coefficient + 1, f.lead⟩ : Figures).value count = g.value count := by
    rw [next]
    rcases le_abs.1 near with right | left
    · linarith
    · linarith
  rw [← full.eq_of_value_eq hg.full some same] at evenG
  exact Nat.not_even_iff_odd.2 evenF.add_one evenG

theorem RoundsTo.unique {q : ℚ} {f g : Figures} (some : 0 < count) (hf : RoundsTo count q f)
    (hg : RoundsTo count q g) : f = g :=
  hf.full.eq_of_value_eq hg.full some
    (le_antisymm (not_lt.1 (not_lt_of_roundsTo some hg hf)) (not_lt.1 (not_lt_of_roundsTo some hf hg)))

/-- The quotient in units of the last figure. -/
theorem div_unit_eq (n d count : Nat) (lead : ℤ) :
    (n : ℚ) / d / unit count lead =
      (shifted n d (count - 1 - lead)).1 / (shifted n d (count - 1 - lead)).2 := by
  rw [shifted_div, div_eq_mul_inv _ (unit count lead)]
  unfold unit
  rw [← zpow_neg, neg_sub]

theorem abs_mul_unit_sub (count : Nat) (lead : ℤ) (k q : ℚ) :
    |k * unit count lead - q| = |k - q / unit count lead| * unit count lead := by
  have pos := unit_pos count lead
  rw [← abs_of_pos pos, ← abs_mul, abs_of_pos pos, sub_mul, div_mul_cancel₀ _ pos.ne']

/-- What the quotient is rounded to, in units of the last figure, and the carry. -/
theorem significant_cases (some : 0 < count) (hn : 0 < n) (hd : 0 < d) :
    let s := shifted n d (count - 1 - leading n d)
    ∃ r : Nat, r = roundDiv .toEven s.1 s.2 ∧ |(r : ℚ) - n / d / unit count (leading n d)| ≤ 1 / 2 ∧
      (|(r : ℚ) - n / d / unit count (leading n d)| = 1 / 2 → Even r) ∧ 10 ^ (count - 1) ≤ r ∧
      (r < 10 ^ count ∧ significant .toEven count n d = ⟨r, leading n d⟩ ∨
        r = 10 ^ count ∧ significant .toEven count n d = ⟨10 ^ (count - 1), leading n d + 1⟩) := by
  intro s
  obtain ⟨low, high⟩ := isLeading_leading hn hd
  unfold significant
  dsimp only [s]
  rw [div_unit_eq]
  generalize leading n d = lead at low high
  have positive := shifted_pos (n := n) hd (count - 1 - lead)
  have near := abs_roundDiv_sub_le (n := (shifted n d (count - 1 - lead)).1) .toEven positive
  have even := even_roundDiv (n := (shifted n d (count - 1 - lead)).1) positive
  rw [← div_unit_eq] at near even ⊢
  generalize roundDiv .toEven (shifted n d (count - 1 - lead)).1 (shifted n d (count - 1 - lead)).2 = r at near even ⊢
  have pos := unit_pos count lead
  have least : ((10 ^ (count - 1) : Nat) : ℚ) ≤ n / d / unit count lead := by
    rw [le_div_iff₀ pos, pow_mul_unit some]
    exact low
  have most : (n : ℚ) / d / unit count lead < (10 ^ count : Nat) := by
    have split : (10 ^ count : Nat) = 10 ^ (count - 1) * 10 := by rw [← pow_succ, Nat.sub_add_cancel some]
    rw [div_lt_iff₀ pos, split, Nat.cast_mul, Nat.cast_ofNat, mul_right_comm, pow_mul_unit some,
      ← zpow_add_one₀ (by norm_num)]
    exact high
  obtain ⟨above, below⟩ := abs_le.1 near
  have enough : 10 ^ (count - 1) ≤ r := by
    have : ((10 ^ (count - 1) : Nat) : ℚ) < (r + 1 : Nat) := by
      rw [Nat.cast_succ]
      linarith
    exact Nat.lt_succ_iff.1 (Nat.cast_lt.1 this)
  have bounded : r ≤ 10 ^ count := by
    have : (r : ℚ) < (10 ^ count + 1 : Nat) := by
      rw [Nat.cast_succ]
      linarith
    exact Nat.lt_succ_iff.1 (Nat.cast_lt.1 this)
  refine ⟨r, rfl, near, even, enough, ?_⟩
  rcases Nat.lt_or_eq_of_le bounded with less | full
  · exact .inl ⟨less, if_neg less.ne⟩
  · exact .inr ⟨full, if_pos full⟩

/-- Both of the possible results are that many units. -/
theorem significant_value (some : 0 < count) (hn : 0 < n) (hd : 0 < d) :
    let f := significant .toEven count n d
    ∃ r : Nat, f.Full count ∧ f.value count = r * unit count (leading n d) ∧
      |(r : ℚ) - n / d / unit count (leading n d)| ≤ 1 / 2 ∧
      (1 < count → |(r : ℚ) - n / d / unit count (leading n d)| = 1 / 2 → Even f.coefficient) := by
  intro f
  obtain ⟨r, -, near, even, enough, ⟨less, eq⟩ | ⟨rfl, eq⟩⟩ := significant_cases some hn hd
  · refine ⟨r, ?_, ?_, near, fun _ half => ?_⟩
    · show (significant .toEven count n d).Full count
      rw [eq]
      exact ⟨enough, less⟩
    · show (significant .toEven count n d).value count = _
      rw [eq, value_eq]
    · show Even (significant .toEven count n d).coefficient
      rw [eq]
      exact even half
  · have split : (10 ^ count : Nat) = 10 ^ (count - 1) * 10 := by rw [← pow_succ, Nat.sub_add_cancel some]
    refine ⟨10 ^ count, ?_, ?_, near, fun more _ => ?_⟩
    · show (significant .toEven count n d).Full count
      rw [eq]
      exact ⟨le_rfl, Nat.pow_lt_pow_right (by decide) (by omega)⟩
    · show (significant .toEven count n d).value count = _
      rw [eq, value_eq, split, Nat.cast_mul, mul_right_comm, pow_mul_unit some, pow_mul_unit some,
        zpow_add_one₀ (by norm_num), Nat.cast_ofNat]
    · show Even (significant .toEven count n d).coefficient
      rw [eq]
      exact (by decide : Even 10).pow_of_ne_zero (by omega)

theorem significant_roundsTo (more : 1 < count) (hn : 0 < n) (hd : 0 < d) :
    RoundsTo count (n / d) (significant .toEven count n d) := by
  have some : 0 < count := by omega
  obtain ⟨low, high⟩ := isLeading_leading hn hd
  obtain ⟨r, full, value, near, even⟩ := significant_value some hn hd
  generalize significant .toEven count n d = f at full value even
  generalize leading n d = lead at low high value near even
  have pos := unit_pos count lead
  have near : |((r : ℤ) : ℚ) - n / d / unit count lead| ≤ 1 / 2 := near
  -- a number of the same grid, or one that is farther away than the least of it
  have or_farther : ∀ g : Figures, g.Full count →
      (∃ k : ℤ, g.value count = k * unit count lead) ∨
        |f.value count - n / d| < |g.value count - n / d| := by
    intro g hg
    by_cases coarse : lead ≤ g.lead
    · exact .inl (exists_value_eq coarse)
    · right
      have below : g.value count < 10 ^ lead :=
        (hg.isLeading some).2.trans_le (zpow_le_zpow_right₀ (by norm_num) (by omega))
      have least := abs_sub_le_of_near (k := (10 ^ (count - 1) : Nat)) near
      have least := mul_le_mul_of_nonneg_right least pos.le
      rw [← abs_mul_unit_sub, ← abs_mul_unit_sub, Int.cast_natCast, Int.cast_natCast, ← value, pow_mul_unit some,
        abs_of_nonpos (sub_nonpos.2 low)] at least
      rw [abs_of_neg (sub_neg.2 (below.trans_le low))]
      linarith
  constructor
  · exact full
  · intro g hg
    rcases or_farther g hg with ⟨k, same⟩ | farther
    · rw [value, same, abs_mul_unit_sub, abs_mul_unit_sub]
      exact mul_le_mul_of_nonneg_right (abs_sub_le_of_near near) pos.le
    · exact farther.le
  · intro g hg other tied
    rcases or_farther g hg with ⟨k, same⟩ | farther
    · rw [value, same, abs_mul_unit_sub, abs_mul_unit_sub] at tied
      have apart : k ≠ r := by
        rintro rfl
        exact other (hg.eq_of_value_eq full some (same.trans value.symm))
      exact even more (abs_sub_eq_half near apart (mul_right_cancel₀ pos.ne' tied))
    · exact absurd tied farther.ne'

/-- To round at the last figure under the leading exponent of the result gives its coefficient. -/
theorem roundDiv_shifted_lead (some : 0 < count) (hn : 0 < n) (hd : 0 < d) :
    let f := significant .toEven count n d
    let s := shifted n d (count - 1 - f.lead)
    roundDiv .toEven s.1 s.2 = f.coefficient := by
  intro f s
  obtain ⟨r, rounded, near, -, -, ⟨-, eq⟩ | ⟨full, eq⟩⟩ := significant_cases some hn hd
  · have eq : f = ⟨r, leading n d⟩ := eq
    simp only [s, eq]
    exact rounded.symm
  · -- what rounds up to the next power of ten is very near to it in units ten times as large
    have eq : f = ⟨10 ^ (count - 1), leading n d + 1⟩ := eq
    simp only [s, eq]
    apply roundDiv_eq_of_near _ (shifted_pos hd _)
    rw [← div_unit_eq]
    have pos := unit_pos count (leading n d)
    have coarse : unit count (leading n d + 1) = unit count (leading n d) * 10 := by
      unfold unit
      rw [add_sub_right_comm, zpow_add_one₀ (by norm_num)]
    have split : (10 ^ count : Nat) = 10 ^ (count - 1) * 10 := by rw [← pow_succ, Nat.sub_add_cancel some]
    rw [coarse, ← div_div]
    rw [full, split, Nat.cast_mul, Nat.cast_ofNat] at near
    generalize ((10 ^ (count - 1) : Nat) : ℚ) = c at near ⊢
    obtain ⟨above, below⟩ := abs_le.1 near
    rw [abs_lt]
    constructor <;> linarith

end

end MetricFeed.Number
