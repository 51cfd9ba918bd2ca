import MetricFeed.Number.Binary
import Mathlib

/-!
# Signs and order of doubles

A double that is not NaN has a sign, and products, quotients by a hundred, differences and absolute values have the
signs one expects (`sign?_mul`, `sign?_div_hundred`, `sign?_abs`); a rounding may make a number a zero or an infinity,
but does not change its sign.  From the signs it follows how so many percent of a number compare with a distance
(`percent_not_neg`, `le_percent_abs`), and what a number differs by from itself (`abs_sub_self`).  Infinities have
distances and shares of their own (`not_percent_lt_of_isInf`, `not_percent_lt_abs_sub_of_isInf`).
-/

namespace MetricFeed.Number

open Float.Model (UnpackedFloat Format)
open Float.Model.UnpackedFloat

/-- The sign of what is not NaN; a zero has one too. -/
def signOf? : UnpackedFloat → Option Sign
  | .notANumber => none
  | .infinity s => some s
  | .zero s => some s
  | .finite s _ _ _ => some s

/-! ### Bits -/

/-- The bits with these fields. -/
def ofFields (s : Sign) (e : BitVec 11) (m : BitVec 52) : BitVec 64 :=
  packComponents .binary64 s e m

theorem exists_fields (b : BitVec 64) : ∃ s e m, b = ofFields s e m :=
  ⟨_, _, _, (@packComponents_unpackSign_unpackExponent_unpackMantissa .binary64 b).symm⟩

theorem toNat_hidden (m : BitVec 52) : (1#1 ++ m).toNat = 2 ^ 52 + m.toNat := by
  rw [BitVec.toNat_append, ← Nat.shiftLeft_add_eq_or_of_lt m.isLt]
  rfl

/-- How the fields of a double are read. -/
theorem unpack_ofFields (s : Sign) (e : BitVec 11) (m : BitVec 52) :
    unpack .binary64 (ofFields s e m) =
      if e = -1#11 then if m = 0#52 then .infinity s else .notANumber
      else if e = 0#11 then
        if h : m = 0#52 then .zero s
        else .finite s m.toNat (-1074) (by simpa [BitVec.toNat_pos, BitVec.pos_iff_ne_zero] using h)
      else .finite s (2 ^ 52 + m.toNat) (e.toNat - 1075) (by omega) := by
  have bias : Format.binary64.exponentBias = 1023 := rfl
  unfold ofFields unpack
  simp only [unpackMantissa_packComponents, unpackExponent_packComponents, unpackSign_packComponents,
    Sign.ofBitVec_toBitVec, bias, toNat_hidden]
  split
  · rfl
  · split
    · rename_i least
      split
      · rfl
      · rw [least]
        rfl
    · congr 1

theorem ofNat_ne_full {n : Nat} (small : ¬2 ^ 11 ≤ n + 1) : BitVec.ofNat 11 n ≠ -1#11 := by
  intro full
  have := congrArg BitVec.toNat full
  rw [BitVec.toNat_ofNat, Nat.mod_eq_of_lt (by omega)] at this
  change n = 2047 at this
  omega

theorem signOf?_unpack_ofFields (s : Sign) {e : BitVec 11} {m : BitVec 52} (number : e = -1#11 → m = 0#52) :
    signOf? (unpack .binary64 (ofFields s e m)) = some s := by
  rw [unpack_ofFields]
  split
  · rw [if_pos (number ‹_›)]
    rfl
  · split
    · split <;> rfl
    · rfl

/-- What is put into bits keeps its sign, and NaN stays NaN. -/
theorem signOf?_unpack_pack (u : UnpackedFloat) :
    signOf? (unpack .binary64 (pack .binary64 u)) = signOf? u := by
  cases u with
  | notANumber => rfl
  | infinity s => exact signOf?_unpack_ofFields s fun _ => rfl
  | zero s => exact signOf?_unpack_ofFields s fun _ => rfl
  | finite s m e positive =>
    -- what is too large becomes an infinity, and the field of the sign is the same in all cases
    unfold pack
    dsimp only
    split
    · exact signOf?_unpack_ofFields s fun _ => rfl
    · rename_i small
      split
      · exact signOf?_unpack_ofFields s fun full => absurd full (ofNat_ne_full small)
      · exact signOf?_unpack_ofFields s fun full => by cases full

theorem isFinite_unpack_ofFields (s : Sign) (e : BitVec 11) (m : BitVec 52) :
    (unpack .binary64 (ofFields s e m)).isFinite = true ↔ e ≠ -1#11 := by
  rw [unpack_ofFields]
  split
  · rename_i full
    refine ⟨fun finite => ?_, fun notFull => absurd full notFull⟩
    split at finite <;> cases finite
  · rename_i notFull
    refine ⟨fun _ => notFull, fun _ => ?_⟩
    split
    · split <;> rfl
    · rfl

theorem abs_unpack_ofFields (s : Sign) {e : BitVec 11} (m : BitVec 52) (notFull : e ≠ -1#11) :
    (unpack .binary64 (ofFields s e m)).abs = unpack .binary64 (ofFields .positive e m) := by
  rw [unpack_ofFields, unpack_ofFields, if_neg notFull, if_neg notFull]
  split
  · split <;> rfl
  · rfl

theorem valid_ofFields (s : Sign) {e : BitVec 11} (m : BitVec 52) (notFull : e ≠ -1#11) :
    Format.binary64.Valid (ofFields s e m) :=
  ⟨fun full _ => absurd (unpackExponent_packComponents.symm.trans full) notFull⟩

/-! ### Signs -/

/-- The sign of a double that is not NaN; a zero has one too. -/
def sign? (v : Float) : Option Sign :=
  signOf? v.toModel.unpack

def IsZero (v : Float) : Prop :=
  ∃ s, v.toModel.unpack = .zero s

theorem sign?_of_pack (u : UnpackedFloat) : sign? (.ofModel (.pack u)) = signOf? u :=
  signOf?_unpack_pack u

theorem isZero_of_pack (s : Sign) : IsZero (.ofModel (.pack (.zero s))) :=
  ⟨s, by cases s <;> rfl⟩

theorem mul_eq (a b : Float) : a * b = .ofModel (.pack (.mul .binary64 a.toModel.unpack b.toModel.unpack)) :=
  rfl

theorem sub_eq (a b : Float) : a - b = .ofModel (.pack (.sub .binary64 a.toModel.unpack b.toModel.unpack)) :=
  rfl

theorem abs_eq (a : Float) : a.abs = .ofModel (.pack a.toModel.unpack.abs) :=
  rfl

theorem div_hundred_eq (a : Float) : a / 100 =
    .ofModel (.pack (.div .binary64 a.toModel.unpack (.finite .positive 7036874417766400 (-46) (by decide)))) :=
  rfl

theorem signOf?_roundWithAccuracy (spec : Format) (s : Sign) (m : Nat) (e : Int) (accuracy : Accuracy) :
    signOf? (roundWithAccuracy spec s m e accuracy) = some s := by
  unfold roundWithAccuracy
  dsimp only
  split <;> rfl

variable {a b : Float} {s t : Sign}

/-- What a finite double is read as. -/
theorem exists_of_isFinite (h : a.isFinite = true) :
    (∃ s, a.toModel.unpack = .zero s) ∨ ∃ s m e positive, a.toModel.unpack = .finite s m e positive := by
  have finite : a.toModel.unpack.isFinite = true := h
  cases read : a.toModel.unpack with
  | zero s => exact .inl ⟨s, rfl⟩
  | finite s m e positive => exact .inr ⟨s, m, e, positive, rfl⟩
  | notANumber =>
    rw [read] at finite
    cases finite
  | infinity s =>
    rw [read] at finite
    cases finite

theorem isSome_sign?_of_isFinite (h : a.isFinite = true) : ∃ s, sign? a = some s := by
  unfold sign?
  rcases exists_of_isFinite h with ⟨s, read⟩ | ⟨s, m, e, positive, read⟩
  · exact ⟨s, by rw [read]; rfl⟩
  · exact ⟨s, by rw [read]; rfl⟩

theorem isZero_mul (ha : a.isFinite = true) (hb : b.isFinite = true) (zero : IsZero a ∨ IsZero b) :
    IsZero (a * b) := by
  rw [mul_eq]
  rcases zero with ⟨s, read⟩ | ⟨s, read⟩
  · rw [read]
    rcases exists_of_isFinite hb with ⟨t, read⟩ | ⟨t, m, e, positive, read⟩
    all_goals
      rw [read]
      exact isZero_of_pack _
  · rw [read]
    rcases exists_of_isFinite ha with ⟨t, read⟩ | ⟨t, m, e, positive, read⟩
    all_goals
      rw [read]
      exact isZero_of_pack _

theorem sign?_mul (ha : a.isFinite = true) (hb : b.isFinite = true) (sa : sign? a = some s) (sb : sign? b = some t) :
    sign? (a * b) = some (s * t) := by
  unfold sign? at sa sb
  rw [mul_eq, sign?_of_pack]
  rcases exists_of_isFinite ha with ⟨s', read⟩ | ⟨s', m, e, positive, read⟩
  all_goals
    rw [read] at sa ⊢
    cases sa
    rcases exists_of_isFinite hb with ⟨t', read⟩ | ⟨t', m', e', positive', read⟩
    all_goals
      rw [read] at sb ⊢
      cases sb
  · rfl
  · rfl
  · rfl
  · exact signOf?_roundWithAccuracy ..

theorem isZero_div_hundred (h : IsZero a) : IsZero (a / 100) := by
  obtain ⟨s, read⟩ := h
  rw [div_hundred_eq, read]
  exact isZero_of_pack _

theorem sign?_div_hundred (h : sign? a = some s) : sign? (a / 100) = some s := by
  have same (s : Sign) : s / .positive = s := by cases s <;> rfl
  unfold sign? at h
  rw [div_hundred_eq, sign?_of_pack]
  cases read : a.toModel.unpack with
  | notANumber =>
    rw [read] at h
    cases h
  | infinity s' =>
    rw [read] at h
    cases h
    exact congrArg some (same _)
  | zero s' =>
    rw [read] at h
    cases h
    exact congrArg some (same _)
  | finite s' m e positive =>
    rw [read] at h
    cases h
    exact (signOf?_roundWithAccuracy ..).trans (congrArg some (same _))

/-! ### Distances -/

theorem sign?_abs (h : sign? a = some s) : sign? a.abs = some .positive := by
  unfold sign? at h
  rw [abs_eq, sign?_of_pack]
  cases read : a.toModel.unpack with
  | notANumber =>
    rw [read] at h
    cases h
  | _ => rfl

theorem abs_of_positive (h : sign? a = some .positive) : a.abs = a := by
  have same : a.toModel.unpack.abs = a.toModel.unpack := by
    unfold sign? at h
    cases read : a.toModel.unpack with
    | notANumber => rfl
    | _ =>
      rw [read] at h
      cases h
      rfl
  have bits : Float.Model.pack a.toModel.unpack = a.toModel := by
    have := pack_unpack_of_valid a.toModel.valid
    unfold Float.Model.pack Float.Model.unpack
    simp only [this]
  rw [abs_eq, same, bits]

theorem isFinite_abs (h : a.isFinite = true) : a.abs.isFinite = true := by
  obtain ⟨s, e, m, fields⟩ := exists_fields a.toModel.toBits.toBitVec
  have finite : (unpack .binary64 a.toModel.toBits.toBitVec).isFinite = true := h
  show (unpack .binary64 (pack .binary64 (unpack .binary64 a.toModel.toBits.toBitVec).abs)).isFinite = true
  rw [fields, isFinite_unpack_ofFields] at finite
  rw [fields, abs_unpack_ofFields s m finite, pack_unpack_of_valid (valid_ofFields .positive m finite)]
  exact (isFinite_unpack_ofFields ..).2 finite

theorem signOf?_normalize (spec : Format) (m e : Int) (zeroSign : Sign) :
    ∃ s, signOf? (UnpackedFloat.normalize spec m e zeroSign) = some s := by
  unfold UnpackedFloat.normalize
  split
  · exact ⟨_, signOf?_roundWithAccuracy ..⟩
  · exact ⟨_, rfl⟩
  · exact ⟨_, signOf?_roundWithAccuracy ..⟩

/-- The difference of finite doubles is a number. -/
theorem isSome_sign?_sub (ha : a.isFinite = true) (hb : b.isFinite = true) : ∃ s, sign? (a - b) = some s := by
  rw [sub_eq, sign?_of_pack]
  rcases exists_of_isFinite ha with ⟨s, read⟩ | ⟨s, m, e, positive, read⟩
  all_goals
    rw [read]
    rcases exists_of_isFinite hb with ⟨t, read'⟩ | ⟨t, m', e', positive', read'⟩
    all_goals rw [read']
  · cases s <;> cases t <;> exact ⟨_, rfl⟩
  · exact ⟨_, rfl⟩
  · exact ⟨_, rfl⟩
  · exact signOf?_normalize ..

theorem abs_sub_self (h : a.isFinite = true) : (a - a).abs = 0 := by
  have zero : UnpackedFloat.sub .binary64 a.toModel.unpack a.toModel.unpack = .zero .positive := by
    rcases exists_of_isFinite h with ⟨s, read⟩ | ⟨s, m, e, positive, read⟩
    · rw [read]
      cases s <;> rfl
    · rw [read]
      simp only [UnpackedFloat.sub, Int.sub_self]
      rfl
  rw [sub_eq, zero]
  rfl

/-! ### Order -/

theorem lt_iff : a < b ↔ a.toModel.unpack.compare b.toModel.unpack = some .lt := by
  show decide (a.toModel.lt b.toModel = true) = true ↔ _
  rw [decide_eq_true_iff]
  exact beq_iff_eq

theorem le_iff : a ≤ b ↔ (a.toModel.unpack.compare b.toModel.unpack).any Ordering.isLE = true := by
  show decide (a.toModel.le b.toModel = true) = true ↔ _
  rw [decide_eq_true_iff]
  rfl

theorem compare_swap (u v : UnpackedFloat) : u.compare v = (v.compare u).map Ordering.swap := by
  have exponents (e e' : Int) (m m' : Nat) :
      (compare e e').then (compare m m') = ((compare e' e).then (compare m' m)).swap := by
    rw [Ordering.swap_then, ← Std.OrientedCmp.eq_swap, ← Std.OrientedCmp.eq_swap]
  cases u with
  | notANumber => cases v <;> rfl
  | infinity s =>
    cases v with
    | infinity t => cases s <;> cases t <;> rfl
    | notANumber => cases s <;> rfl
    | zero t => cases s <;> rfl
    | finite t => cases s <;> rfl
  | zero s =>
    cases v with
    | infinity t => cases t <;> rfl
    | notANumber => rfl
    | zero t => rfl
    | finite t => cases t <;> rfl
  | finite s m e =>
    cases v with
    | infinity t => cases t <;> rfl
    | notANumber => rfl
    | zero t => cases s <;> rfl
    | finite t m' e' =>
      cases s <;> cases t
      · exact congrArg some (congrArg Ordering.swap (exponents ..))
      · rfl
      · rfl
      · exact congrArg some (exponents ..)

/-- Numbers compare. -/
theorem isSome_compare {u v : UnpackedFloat} (hu : signOf? u = some s) (hv : signOf? v = some t) :
    ∃ o, u.compare v = some o := by
  fun_cases UnpackedFloat.compare u v with
  | case1 => cases hu
  | case2 => cases hv
  | _ => exact ⟨_, rfl⟩

/-- Of two numbers, one is the smaller or they are equal. -/
theorem le_of_not_lt (sa : sign? a = some s) (sb : sign? b = some t) (h : ¬a < b) : b ≤ a := by
  obtain ⟨o, compared⟩ := isSome_compare sa sb
  rw [lt_iff, compared] at h
  rw [le_iff, compare_swap, compared]
  cases o with
  | lt => exact absurd rfl h
  | eq => rfl
  | gt => rfl

theorem zero_read : (0 : Float).toModel.unpack = .zero .positive :=
  rfl

/-- No positive number is below a negative one, unless both are zeros. -/
theorem isZero_of_le (sa : sign? a = some .positive) (sb : sign? b = some .negative) (h : a ≤ b) : IsZero a := by
  unfold sign? at sa sb
  unfold IsZero
  rw [le_iff] at h
  generalize a.toModel.unpack = u at sa h ⊢
  generalize b.toModel.unpack = v at sb h
  cases u with
  | zero s => exact ⟨s, rfl⟩
  | notANumber => cases sa
  | infinity s =>
    cases sa
    cases v <;> cases sb <;> cases h
  | finite s m e =>
    cases sa
    cases v <;> cases sb <;> cases h

theorem le_of_isZero (zero : IsZero a) (sb : sign? b = some .positive) : a ≤ b := by
  obtain ⟨s, read⟩ := zero
  unfold sign? at sb
  rw [le_iff, read]
  generalize b.toModel.unpack = v at sb ⊢
  cases v <;> cases sb <;> rfl

/-- The order does not tell zeros apart. -/
theorem le_zeros {z z' : Float} (hz : IsZero z) (hz' : IsZero z') (h : a ≤ z) : a ≤ z' := by
  obtain ⟨s, read⟩ := hz
  obtain ⟨s', read'⟩ := hz'
  rw [le_iff, read] at h
  rw [le_iff, read']
  generalize a.toModel.unpack = u at h ⊢
  cases u with
  | infinity t => cases t <;> exact h
  | finite t => cases t <;> exact h
  | _ => exact h

theorem not_lt_zero (h : sign? a = some .positive ∨ IsZero a) : ¬a < 0 := by
  rw [lt_iff, zero_read]
  rcases h with sa | ⟨s, read⟩
  · unfold sign? at sa
    generalize a.toModel.unpack = u at sa ⊢
    cases u <;> cases sa <;> exact nofun
  · rw [read]
    exact nofun

theorem positive_or_isZero (finite : a.isFinite = true) (h : ¬a < 0) : sign? a = some .positive ∨ IsZero a := by
  rw [lt_iff, zero_read] at h
  unfold sign? IsZero
  rcases exists_of_isFinite finite with ⟨s, read⟩ | ⟨s, m, e, positive, read⟩
  · exact .inr ⟨s, read⟩
  · rw [read] at h ⊢
    cases s with
    | positive => exact .inl rfl
    | negative => exact absurd rfl h

/-- No number is below a distance that is not a number. -/
theorem not_lt_abs_sub (h : a.isNaN = true ∨ b.isNaN = true) (c : Float) : ¬c < (a - b).abs := by
  have none : UnpackedFloat.sub .binary64 a.toModel.unpack b.toModel.unpack = .notANumber := by
    rcases h with h | h
    · rw [show a.toModel.unpack = .notANumber from isNaN_iff.1 h]
      rfl
    · rw [show b.toModel.unpack = .notANumber from isNaN_iff.1 h]
      cases a.toModel.unpack <;> rfl
  have distance : (a - b).abs.toModel.unpack = .notANumber := by
    rw [sub_eq, none]
    rfl
  rw [lt_iff, distance]
  intro less
  cases read : c.toModel.unpack <;> (rw [read] at less; cases less)

/-! ### A share of a number -/

/-- So many percent of a number that is not below zero are not below zero. -/
theorem percent_not_neg {percent v : Float} (finite : percent.isFinite = true) (valid : ¬percent < 0)
    (finiteV : v.isFinite = true) (hv : ¬v < 0) : ¬percent * v / 100 < 0 := by
  apply not_lt_zero
  rcases positive_or_isZero finite valid with sp | zero
  · rcases positive_or_isZero finiteV hv with sv | zero
    · exact .inl (sign?_div_hundred (sign?_mul finite finiteV sp sv))
    · exact .inr (isZero_div_hundred (isZero_mul finite finiteV (.inr zero)))
  · exact .inr (isZero_div_hundred (isZero_mul finite finiteV (.inl zero)))

/-- A size that is not above so many percent of a number is within so many percent of its size. -/
theorem le_percent_abs {percent v size : Float} (finite : percent.isFinite = true) (valid : ¬percent < 0)
    (finiteV : v.isFinite = true) (sized : sign? size = some .positive) (h : ¬percent * v / 100 < size) :
    size ≤ percent * v.abs / 100 := by
  obtain ⟨s, sv⟩ := isSome_sign?_of_isFinite finiteV
  obtain ⟨t, sp⟩ := isSome_sign?_of_isFinite finite
  have signed := sign?_div_hundred (sign?_mul finite finiteV sp sv)
  have le := le_of_not_lt signed sized h
  have finiteV' := isFinite_abs finiteV
  rcases positive_or_isZero finite valid with positive | zero
  · cases s with
    | positive =>
      rw [abs_of_positive sv]
      exact le
    | negative =>
      -- the share is negative, so the size is zero
      cases sp.symm.trans positive
      have zero := isZero_of_le sized signed le
      exact le_of_isZero zero (sign?_div_hundred (sign?_mul finite finiteV' sp (sign?_abs sv)))
  · exact le_zeros (isZero_div_hundred (isZero_mul finite finiteV (.inl zero)))
      (isZero_div_hundred (isZero_mul finite finiteV' (.inl zero))) le

/-! ### Infinities -/

theorem read_infinity (s : Sign) : (Float.ofModel (.pack (.infinity s))).toModel.unpack = .infinity s := by
  cases s <;> rfl

theorem read_notANumber : (Float.ofModel (.pack .notANumber)).toModel.unpack = .notANumber :=
  rfl

/-- What an infinite double is read as. -/
theorem exists_of_isInf (h : a.isInf = true) : ∃ s, a.toModel.unpack = .infinity s := by
  have infinite : a.toModel.unpack.isInf = true := h
  cases read : a.toModel.unpack with
  | infinity s => exact ⟨s, rfl⟩
  | _ =>
    rw [read] at infinite
    cases infinite

theorem div_hundred_of_infinity (h : a.toModel.unpack = .infinity s) : (a / 100).toModel.unpack = .infinity s := by
  have quotient (m : Nat) (e : Int) (positive : 0 < m) :
      UnpackedFloat.div .binary64 (.infinity s) (.finite .positive m e positive) = .infinity s := by
    cases s <;> rfl
  rw [div_hundred_eq, h, quotient]
  exact read_infinity s

theorem div_hundred_of_nan (h : a.toModel.unpack = .notANumber) : (a / 100).toModel.unpack = .notANumber := by
  rw [div_hundred_eq, h]
  exact read_notANumber

/-- A share of an infinity is that infinity; no percent of it are not a number. -/
theorem percent_of_infinity {percent v : Float} (finite : percent.isFinite = true) (valid : ¬percent < 0)
    (h : v.toModel.unpack = .infinity s) :
    ¬0 < percent ∧ (percent * v / 100).toModel.unpack = .notANumber ∨
      0 < percent ∧ (percent * v / 100).toModel.unpack = .infinity s := by
  rw [lt_iff, zero_read] at valid ⊢
  rcases exists_of_isFinite finite with ⟨t, read⟩ | ⟨t, m, e, positive, read⟩
  · left
    rw [read]
    refine ⟨nofun, div_hundred_of_nan ?_⟩
    rw [mul_eq, read, h]
    exact read_notANumber
  · right
    rw [read] at valid ⊢
    cases t with
    | negative => exact absurd rfl valid
    | positive =>
      have product : UnpackedFloat.mul .binary64 (.finite .positive m e positive) (.infinity s) = .infinity s := by
        cases s <;> rfl
      refine ⟨rfl, div_hundred_of_infinity ?_⟩
      rw [mul_eq, read, h, product]
      exact read_infinity s

/-- Nothing is above the infinity above zero. -/
theorem not_lt_of_infinity (h : a.toModel.unpack = .infinity .positive) (b : Float) : ¬a < b := by
  rw [lt_iff, h]
  cases b.toModel.unpack with
  | infinity s => cases s <;> exact nofun
  | _ => exact nofun

theorem not_lt_of_nan (h : a.toModel.unpack = .notANumber) (b : Float) : ¬a < b := by
  rw [lt_iff, h]
  exact nofun

/-- The infinity below zero is below every number but itself. -/
theorem infinity_lt_iff (h : a.toModel.unpack = .infinity .negative) :
    a < b ↔ b.toModel.unpack ≠ .notANumber ∧ b.toModel.unpack ≠ .infinity .negative := by
  rw [lt_iff, h]
  cases b.toModel.unpack with
  | notANumber => exact iff_of_false nofun fun number => number.1 rfl
  | infinity s =>
    cases s with
    | positive => exact iff_of_true rfl ⟨nofun, nofun⟩
    | negative => exact iff_of_false nofun fun apart => apart.2 rfl
  | zero s => exact iff_of_true rfl ⟨nofun, nofun⟩
  | finite s m e positive => exact iff_of_true rfl ⟨nofun, nofun⟩

theorem abs_of_infinity (h : a.toModel.unpack = .infinity s) : a.abs.toModel.unpack = .infinity .positive := by
  rw [abs_eq, h]
  exact read_infinity .positive

theorem sub_infinity (u : UnpackedFloat) (s : Sign) :
    UnpackedFloat.sub .binary64 u (.infinity s) = .infinity (-s) ∧ u ≠ .notANumber ∧ u ≠ .infinity s ∨
      UnpackedFloat.sub .binary64 u (.infinity s) = .notANumber ∧ (u = .notANumber ∨ u = .infinity s) := by
  cases u with
  | notANumber => exact .inr ⟨rfl, .inl rfl⟩
  | zero t => exact .inl ⟨rfl, nofun, nofun⟩
  | finite t m e positive => exact .inl ⟨rfl, nofun, nofun⟩
  | infinity t =>
    cases t <;> cases s
    · exact .inr ⟨rfl, .inr rfl⟩
    · exact .inl ⟨rfl, nofun, nofun⟩
    · exact .inl ⟨rfl, nofun, nofun⟩
    · exact .inr ⟨rfl, .inr rfl⟩

/-- What is not an infinity is infinitely far from it, unless it is not a number. -/
theorem abs_sub_of_infinity (h : b.toModel.unpack = .infinity s) :
    (a - b).abs.toModel.unpack = .infinity .positive ∧ a.toModel.unpack ≠ .notANumber ∧
        a.toModel.unpack ≠ .infinity s ∨
      (a - b).abs.toModel.unpack = .notANumber ∧ (a.toModel.unpack = .notANumber ∨ a.toModel.unpack = .infinity s) := by
  rcases sub_infinity a.toModel.unpack s with ⟨difference, apart⟩ | ⟨difference, same⟩
  · refine .inl ⟨abs_of_infinity (s := -s) ?_, apart⟩
    rw [sub_eq, h, difference]
    exact read_infinity (-s)
  · refine .inr ⟨?_, same⟩
    rw [abs_eq, sub_eq, h, difference]
    rfl

/-- So many percent of an infinity are not below the distance of a number from it exactly if the infinity is above
zero, or none are taken, or the number is not above the infinity. -/
theorem not_percent_lt_of_isInf {percent v x : Float} (finite : percent.isFinite = true) (valid : ¬percent < 0)
    (infinite : v.isInf = true) : ¬percent * v / 100 < (x - v).abs ↔ 0 < v ∨ ¬0 < percent ∨ ¬v < x := by
  obtain ⟨s, read⟩ := exists_of_isInf infinite
  rcases percent_of_infinity finite valid read with ⟨none, share⟩ | ⟨some, share⟩
  · exact iff_of_true (not_lt_of_nan share _) (.inr (.inl none))
  · cases s with
    | positive =>
      have above : 0 < v := by
        rw [lt_iff, zero_read, read]
        rfl
      exact iff_of_true (not_lt_of_infinity share _) (.inl above)
    | negative =>
      have below : ¬0 < v := by
        rw [lt_iff, zero_read, read]
        exact nofun
      rw [or_iff_right below, or_iff_right (not_not_intro some), not_iff_not, infinity_lt_iff share,
        infinity_lt_iff read]
      rcases abs_sub_of_infinity (a := x) read with ⟨distance, apart⟩ | ⟨distance, same⟩
      · rw [distance]
        exact iff_of_true ⟨nofun, nofun⟩ apart
      · rw [distance]
        exact iff_of_false (fun number => number.1 rfl) fun apart => same.elim apart.1 apart.2

/-- So many percent of a finite number are not below its distance from an infinity exactly if they are infinite and
above zero. -/
theorem not_percent_lt_abs_sub_of_isInf {percent v x : Float} (finite : percent.isFinite = true)
    (finiteV : v.isFinite = true) (infinite : x.isInf = true) :
    ¬percent * v / 100 < (x - v).abs ↔ (percent * v / 100).isInf = true ∧ 0 < percent * v / 100 := by
  obtain ⟨s, sv⟩ := isSome_sign?_of_isFinite finiteV
  obtain ⟨t, sp⟩ := isSome_sign?_of_isFinite finite
  have signed := sign?_div_hundred (sign?_mul finite finiteV sp sv)
  obtain ⟨r, read⟩ := exists_of_isInf infinite
  have distance : (x - v).abs.toModel.unpack = .infinity .positive := by
    refine abs_of_infinity (s := r) ?_
    rw [sub_eq, read]
    rcases exists_of_isFinite finiteV with ⟨s', readV⟩ | ⟨s', m, e, positive, readV⟩
    all_goals
      rw [readV]
      exact read_infinity r
  rw [lt_iff, lt_iff, distance, zero_read]
  show _ ↔ (percent * v / 100).toModel.unpack.isInf = true ∧ _
  unfold sign? at signed
  generalize (percent * v / 100).toModel.unpack = share at signed ⊢
  cases share with
  | notANumber => cases signed
  | infinity s' =>
    cases s' with
    | positive => exact iff_of_true nofun ⟨rfl, rfl⟩
    | negative => exact iff_of_false (not_not_intro rfl) fun above => nomatch above.2
  | zero s' => exact iff_of_false (not_not_intro rfl) nofun
  | finite s' m e positive => exact iff_of_false (not_not_intro rfl) nofun

end MetricFeed.Number
