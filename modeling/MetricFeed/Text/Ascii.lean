/-!
# Words compared without regard to ASCII case

Names of plugins, kinds and protocols are matched ignoring the case of the 26 ASCII letters only, so `É` and `é`
stay different.
-/

namespace MetricFeed.Text

/-- The text with `A` to `Z` in lower case. -/
def lower (s : String) : String :=
  String.ofList (s.toList.map Char.toLower)

def eqIgnoreCase (a b : String) : Bool :=
  a.toList.map Char.toLower == b.toList.map Char.toLower

/-- `s` begins with `head`, ignoring case. -/
def startsIgnoreCase (s head : String) : Bool :=
  (s.toList.take head.toList.length).map Char.toLower == head.toList.map Char.toLower

theorem eqIgnoreCase_self (a : String) : eqIgnoreCase a a = true := by
  simp [eqIgnoreCase]

/-- Texts match if they are the same in lower case. -/
theorem eqIgnoreCase_iff {a b : String} : eqIgnoreCase a b = true ↔ lower a = lower b := by
  unfold eqIgnoreCase lower
  rw [beq_iff_eq, String.ofList_inj]

theorem eqIgnoreCase_comm (a b : String) : eqIgnoreCase a b = eqIgnoreCase b a := by
  rw [Bool.eq_iff_iff, eqIgnoreCase, eqIgnoreCase, beq_iff_eq, beq_iff_eq, eq_comm]

end MetricFeed.Text
