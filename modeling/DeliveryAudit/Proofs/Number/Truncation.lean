import DeliveryAudit.Number.Rounding
import Mathlib.Algebra.Order.Field.Power
import Mathlib.Data.Rat.Floor
import Mathlib.Tactic.Linarith
/-!
# Cutting off at the point

A finite number is a rational number (`Number.valueOf`), and its integer part
is this number cut off at the point, toward zero (`Number.truncate_eq`). So
what is behind the point is lost on both sides of zero: the integer part is
negative only from minus one down (`Number.truncated_lt_zero_iff`).
-/

namespace DeliveryAudit.Number

variable {q : ℚ}

/-- A rational number cut off at the point. -/
def truncated (q : ℚ) : ℤ := if 0 ≤ q then ⌊q⌋ else ⌈q⌉

/-- The number that a sign, a mantissa and an exponent make. -/
def valueOf (negative : Bool) (mantissa : ℕ) (exponent : ℤ) : ℚ :=
  if negative then -(mantissa * 2 ^ exponent) else mantissa * 2 ^ exponent

/-- An integer is not changed. -/
@[simp] theorem truncated_intCast (n : ℤ) : truncated n = n := by
  unfold truncated
  split
  · exact Int.floor_intCast n
  · exact Int.ceil_intCast n

theorem truncated_neg (q : ℚ) : truncated (-q) = -truncated q := by
  rcases lt_trichotomy q 0 with h | rfl | h
  · rw [truncated, truncated, if_pos (by linarith), if_neg (not_le.2 h), Int.floor_neg]
  · rfl
  · rw [truncated, truncated, if_neg (by linarith), if_pos h.le, Int.ceil_neg]

/-- **The integer part is negative** only from minus one down. -/
theorem truncated_lt_zero_iff : truncated q < 0 ↔ q ≤ -1 := by
  unfold truncated
  split
  · next h => exact iff_of_false (not_lt.2 (Int.floor_nonneg.2 h)) (by linarith)
  · rw [← Int.le_sub_one_iff, Int.ceil_le]
    norm_num

/-- **The integer part is zero** between minus one and one. -/
theorem truncated_eq_zero_iff : truncated q = 0 ↔ -1 < q ∧ q < 1 := by
  have hpos : 0 < truncated q ↔ 1 ≤ q := by
    rw [← neg_le_neg_iff, ← truncated_lt_zero_iff, truncated_neg, Int.neg_lt_zero_iff]
  rw [← not_le, ← truncated_lt_zero_iff, ← not_le (b := q), ← hpos]
  omega

/-- Only integers are not changed. -/
theorem truncated_eq_iff : (truncated q : ℚ) = q ↔ ∃ n : ℤ, q = n := by
  constructor
  · exact fun h => ⟨_, h.symm⟩
  · rintro ⟨n, rfl⟩
    rw [truncated_intCast]

/-- A size is a quotient. -/
theorem scale_eq (mantissa : ℕ) (exponent : ℤ) :
    (mantissa * 2 ^ exponent : ℚ) =
      ((scale mantissa exponent).1 : ℚ) / ((scale mantissa exponent).2 : ℚ) := by
  cases exponent with
  | ofNat e => simp [scale]
  | negSucc e => simp [scale, zpow_negSucc, div_eq_mul_inv]

/-- **The integer part of a finite number** is its value cut off at the
point. -/
theorem truncate_eq (negative : Bool) (mantissa : ℕ) (exponent : ℤ) :
    truncate negative mantissa exponent = truncated (valueOf negative mantissa exponent) := by
  have hsize : truncated ((mantissa : ℚ) * (2 : ℚ) ^ exponent) =
      ((scale mantissa exponent).1 / (scale mantissa exponent).2 : ℕ) := by
    rw [truncated, if_pos (by positivity), scale_eq, Rat.floor_natCast_div_natCast]
    rfl
  cases negative with
  | true => rw [valueOf, if_pos rfl, truncated_neg, hsize]; rfl
  | false => rw [valueOf, if_neg Bool.false_ne_true, hsize]; rfl

end DeliveryAudit.Number
