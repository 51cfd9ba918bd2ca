/-!
# Rounding a quotient

`roundDiv` rounds a quotient of natural numbers to a neighbouring whole number.  The result is within half a unit
(`roundDiv_lower`, `roundDiv_upper`) and exact where the division is (`roundDiv_mul`).
-/

namespace MetricFeed.Number

/-- Where a value halfway between two whole numbers goes. -/
inductive Tie where
  | toEven
  | up
  deriving DecidableEq

def roundDiv (tie : Tie) (n d : Nat) : Nat :=
  let q := n / d
  let r := n % d
  if 2 * r < d then q
  else if d < 2 * r then q + 1
  else match tie with
    | .toEven => q + q % 2
    | .up => q + 1

theorem roundDiv_eq_or (tie : Tie) (n d : Nat) :
    roundDiv tie n d = n / d ∨ roundDiv tie n d = n / d + 1 := by
  unfold roundDiv
  dsimp only
  split
  · exact .inl rfl
  · split
    · exact .inr rfl
    · cases tie with
      | toEven => rcases Nat.mod_two_eq_zero_or_one (n / d) with h | h <;> simp [h]
      | up => exact .inr rfl

theorem roundDiv_near (tie : Tie) {n d : Nat} (hd : 0 < d) :
    2 * n ≤ 2 * (roundDiv tie n d * d) + d ∧ 2 * (roundDiv tie n d * d) ≤ 2 * n + d := by
  have hn := Nat.div_add_mod n d
  have hc : d * (n / d) = n / d * d := Nat.mul_comm _ _
  have hr := Nat.mod_lt n hd
  unfold roundDiv
  dsimp only
  split
  · omega
  · split
    · rw [Nat.add_mul]; omega
    · cases tie with
      | toEven =>
        rcases Nat.mod_two_eq_zero_or_one (n / d) with h | h
        · simp only [h, Nat.add_zero]; omega
        · simp only [h, Nat.add_mul]; omega
      | up => simp only [Nat.add_mul]; omega

theorem roundDiv_lower (tie : Tie) {n d : Nat} (hd : 0 < d) : 2 * n ≤ 2 * (roundDiv tie n d * d) + d :=
  (roundDiv_near tie hd).1

theorem roundDiv_upper (tie : Tie) {n d : Nat} (hd : 0 < d) : 2 * (roundDiv tie n d * d) ≤ 2 * n + d :=
  (roundDiv_near tie hd).2

theorem roundDiv_mul (tie : Tie) (q : Nat) {d : Nat} (hd : 0 < d) : roundDiv tie (q * d) d = q := by
  simp [roundDiv, Nat.mul_div_cancel _ hd, hd]

end MetricFeed.Number
