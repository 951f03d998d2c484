import DeliveryAudit.Number.Rounding
import Mathlib.Data.Nat.Log
import Mathlib.Tactic.Ring
/-!
# Which integers are real numbers

An integer is rounded to fifty-three bits. The largest real number has
1024 bits, of which the first fifty-three are set, and an integer that
lies nearer to it than to the next power of two is still rounded to it
(`Number.ofInt?_eq_none_iff`).
-/

namespace DeliveryAudit.Number

variable {num den n m : Nat}

/-- A quotient is rounded to one of the two integers next to it. -/
theorem roundEven_le (num den : Nat) :
    num / den ≤ roundEven num den ∧ roundEven num den ≤ num / den + 1 := by
  have hbit := Nat.mod_lt (num / den) (show 0 < 2 by decide)
  simp only [roundEven]
  split_ifs <;> omega

/-- **Rounding up to an even integer**: what lies right below it is rounded
up from the middle on. -/
theorem lt_roundEven_iff (hm : m % 2 = 1) (hlt : num < (m + 1) * den) :
    m < roundEven num den ↔ (2 * m + 1) * den ≤ 2 * num := by
  have hden : 0 < den := Nat.pos_of_ne_zero fun h => by simp [h] at hlt
  have hmiddle : (2 * m + 1) * den = 2 * (den * m) + den := by ring
  have hparts := Nat.div_add_mod num den
  have hrest := Nat.mod_lt num hden
  have hle : num / den ≤ m := Nat.lt_succ_iff.1 ((Nat.div_lt_iff_lt_mul hden).2 hlt)
  rw [hmiddle]
  rcases Nat.lt_or_eq_of_le hle with h | h
  · have hbelow : den * (num / den + 1) ≤ den * m := Nat.mul_le_mul_left den h
    rw [Nat.mul_succ] at hbelow
    have hround := (roundEven_le num den).2
    omega
  · rw [h] at hparts
    simp only [roundEven, h]
    split_ifs <;> omega

/-! ## Integers in units -/

/-- A quotient in units of `2 ^ e`. -/
def inUnits (num den : Nat) : Int → Nat × Nat
  | .ofNat j => (num, den * 2 ^ j)
  | .negSucc j => (num * 2 ^ (j + 1), den)

/-- In units of its last bit but `s`, an integer has `s + 1` bits. -/
theorem inUnits_bounds (hn : 0 < n) (s : Nat) :
    2 ^ s * (inUnits n 1 (n.log2 - s)).2 ≤ (inUnits n 1 (n.log2 - s)).1 ∧
      (inUnits n 1 (n.log2 - s)).1 < 2 ^ (s + 1) * (inUnits n 1 (n.log2 - s)).2 ∧
      0 < (inUnits n 1 (n.log2 - s)).2 := by
  have hlower : 2 ^ n.log2 ≤ n := Nat.log2_self_le (by omega)
  have hupper : n < 2 ^ (n.log2 + 1) := Nat.lt_log2_self
  cases he : (n.log2 : Int) - s with
  | ofNat j =>
    have hlog : n.log2 = s + j := by
      rw [Int.ofNat_eq_natCast] at he
      omega
    have hlog' : n.log2 + 1 = s + 1 + j := by omega
    rw [hlog, Nat.pow_add] at hlower
    rw [hlog', Nat.pow_add] at hupper
    simp only [inUnits, Nat.one_mul]
    exact ⟨hlower, hupper, Nat.two_pow_pos j⟩
  | negSucc j =>
    have hlog : s = n.log2 + (j + 1) := by omega
    have hlog' : s + 1 = n.log2 + 1 + (j + 1) := by omega
    simp only [inUnits, Nat.mul_one]
    rw [hlog', hlog, Nat.pow_add, Nat.pow_add (m := n.log2 + 1)]
    exact ⟨Nat.mul_le_mul_right _ hlower,
      Nat.mul_lt_mul_of_pos_right hupper (Nat.two_pow_pos _), Nat.one_pos⟩

/-- **An integer is rounded** in units in which it has fifty-three bits. -/
theorem nearestBits_one (hn : 0 < n) :
    nearestBits n 1 =
      min ((n.log2 + 1022) * hiddenBit +
        roundEven (inUnits n 1 (n.log2 - 52)).1 (inUnits n 1 (n.log2 - 52)).2) infinityBits := by
  obtain ⟨hlower, -, hden⟩ := inUnits_bounds hn 53
  have hone : Nat.log2 1 = 0 := by decide
  have hlow : max ((n.log2 : Int) - 53) (-1074) = n.log2 - 53 := by omega
  have hnext : (n.log2 : Int) - 53 + 1 = n.log2 - 52 := by omega
  -- One bit more would be one too many.
  have hlong : 2 * hiddenBit ≤ (inUnits n 1 (n.log2 - 53)).1 / (inUnits n 1 (n.log2 - 53)).2 :=
    (Nat.le_div_iff_mul_le hden).2 hlower
  have hfield : ((n.log2 : Int) - 52 + 1074).toNat = n.log2 + 1022 := by omega
  have hunits : nearestBits n 1 =
      let low : Int := max ((n.log2 : Int) - Nat.log2 1 - 53) (-1074)
      let e := if 2 * hiddenBit ≤ (inUnits n 1 low).1 / (inUnits n 1 low).2 then low + 1 else low
      min ((e + 1074).toNat * hiddenBit + roundEven (inUnits n 1 e).1 (inUnits n 1 e).2)
        infinityBits := by
    rw [nearestBits, if_neg (by simp; omega)]
    rfl
  rw [hunits]
  simp only [hone, Nat.cast_zero, Int.sub_zero, hlow, if_pos hlong, hnext, hfield]

/-! ## The range

Fifty-four bits that are all set, at the front of `k + 54`, are the middle
between the two ends of the last unit. -/

theorem lt_middle {k : Nat} (h : n.log2 < k + 53) : n < (2 ^ 54 - 1) * 2 ^ k := by
  calc n < 2 ^ (n.log2 + 1) := Nat.lt_log2_self
    _ ≤ 2 ^ (53 + k) := Nat.pow_le_pow_right (by decide) (by omega)
    _ = 2 ^ 53 * 2 ^ k := Nat.pow_add _ _ _
    _ ≤ (2 ^ 54 - 1) * 2 ^ k := Nat.mul_le_mul_right _ (by decide)

theorem middle_le {k : Nat} (h : k + 53 < n.log2) : (2 ^ 54 - 1) * 2 ^ k ≤ n := by
  have hn : n ≠ 0 := by
    rintro rfl
    exact absurd (Nat.log2_zero ▸ h) (Nat.not_lt_zero _)
  calc (2 ^ 54 - 1) * 2 ^ k ≤ 2 ^ 54 * 2 ^ k := Nat.mul_le_mul_right _ (by decide)
    _ = 2 ^ (54 + k) := (Nat.pow_add _ _ _).symm
    _ ≤ 2 ^ n.log2 := Nat.pow_le_pow_right (by decide) (by omega)
    _ ≤ n := Nat.log2_self_le hn

theorem middle_le_pow {k e : Nat} (h : 54 + k ≤ e) : (2 ^ 54 - 1) * 2 ^ k ≤ 10 ^ e := by
  calc (2 ^ 54 - 1) * 2 ^ k ≤ 10 ^ 54 * 10 ^ k :=
        Nat.mul_le_mul (by decide) (Nat.pow_le_pow_left (by decide) k)
    _ = 10 ^ (54 + k) := (Nat.pow_add _ _ _).symm
    _ ≤ 10 ^ e := Nat.pow_le_pow_right (by decide) h

/-- **From the middle on**, an integer of `k + 54` bits is rounded up to the
next power of two. -/
theorem rounds_up_iff {k : Nat} (h : n.log2 = k + 53) (hn : 0 < n) :
    2 * hiddenBit ≤ roundEven (inUnits n 1 (n.log2 - 52)).1 (inUnits n 1 (n.log2 - 52)).2 ↔
      (2 ^ 54 - 1) * 2 ^ k ≤ n := by
  obtain ⟨-, hupper, -⟩ := inUnits_bounds hn 52
  have hlog : (n.log2 : Int) - 52 = ((k + 1 : Nat) : Int) := by omega
  have hunits : inUnits n 1 (n.log2 - 52) = (n, 2 * 2 ^ k) := by
    rw [hlog, ← Nat.pow_succ', ← Nat.one_mul (2 ^ (k + 1))]
    rfl
  rw [Nat.cast_ofNat, hunits] at hupper
  have hlast := lt_roundEven_iff (m := 2 * hiddenBit - 1) (by decide) hupper
  have hmiddle : (2 * (2 * hiddenBit - 1) + 1) * (2 * 2 ^ k) = 2 * ((2 ^ 54 - 1) * 2 ^ k) := by
    rw [Nat.mul_left_comm]
    rfl
  rw [hmiddle] at hlast
  rw [hunits]
  change 2 * hiddenBit - 1 + 1 ≤ _ ↔ _
  rw [Nat.succ_le_iff, hlast]
  omega

/-- The least natural number that is as near to `2 ^ 1024` as to the largest
real number: `2 ^ 1024 - 2 ^ 970`. -/
def rangeLimit : Nat := (2 ^ 54 - 1) * 2 ^ 970

/-- **A natural number is rounded to infinity** from the limit on. -/
theorem nearestBits_eq_infinityBits_iff (n : Nat) :
    nearestBits n 1 = infinityBits ↔ rangeLimit ≤ n := by
  rcases Nat.eq_zero_or_pos n with rfl | hn
  · refine iff_of_false (by decide) (Nat.not_le.2 (lt_middle ?_))
    rw [Nat.log2_zero]
    decide
  have hbits : infinityBits = 2047 * hiddenBit := by decide
  have hsize : hiddenBit = 2 ^ 52 := by decide
  obtain ⟨hlower, hupper, hden⟩ := inUnits_bounds hn 52
  rw [Nat.cast_ofNat] at hlower hupper hden
  have hround := roundEven_le (inUnits n 1 (n.log2 - 52)).1 (inUnits n 1 (n.log2 - 52)).2
  rw [nearestBits_one hn, min_eq_right_iff, hbits]
  rcases Nat.lt_trichotomy n.log2 (970 + 53) with hlog | hlog | hlog
  · refine iff_of_false (Nat.not_le.2 ?_) (Nat.not_le.2 (lt_middle hlog))
    have hfield : (n.log2 + 1022) * hiddenBit ≤ 2044 * hiddenBit :=
      Nat.mul_le_mul_right _ (by omega)
    have hmantissa := (Nat.div_lt_iff_lt_mul hden).2 hupper
    omega
  · have hup := rounds_up_iff hlog hn
    have hfield : (n.log2 + 1022) * hiddenBit = 2045 * hiddenBit := by rw [hlog]
    rw [rangeLimit, ← hup]
    omega
  · refine iff_of_true ?_ (middle_le hlog)
    have hfield : 2046 * hiddenBit ≤ (n.log2 + 1022) * hiddenBit :=
      Nat.mul_le_mul_right _ (by omega)
    have hmantissa := (Nat.le_div_iff_mul_le hden).2 hlower
    omega

/-- **The integers that are real numbers** are those below the limit, in
size. -/
theorem ofInt?_eq_none_iff (n : Int) : ofInt? n = none ↔ rangeLimit ≤ n.natAbs := by
  rw [← nearestBits_eq_infinityBits_iff]
  simp only [ofInt?, beq_iff_eq]
  split_ifs with h
  · exact iff_of_true rfl h
  · exact iff_of_false (by simp) h

/-! ## Finite numbers -/

/-- A finite number has fifty-three bits, and an exponent below the limit. -/
theorem finite_bounds {x : Float} {negative : Bool} {mantissa : Nat} {exponent : Int}
    (h : parts x = .finite negative mantissa exponent) :
    mantissa < 2 * hiddenBit ∧ exponent ≤ 971 := by
  have hbits : (signAndBits x).2 < 2048 * hiddenBit := Nat.mod_lt _ (by decide)
  have hfield : (signAndBits x).2 / hiddenBit < 2048 :=
    (Nat.div_lt_iff_lt_mul (by decide)).2 hbits
  have hfraction : (signAndBits x).2 % hiddenBit < hiddenBit := Nat.mod_lt _ (by decide)
  simp only [parts] at h
  split_ifs at h with hspecial hzero hsmall
  · cases h
    exact ⟨by omega, by decide⟩
  · cases h
    rw [beq_iff_eq] at hspecial
    exact ⟨by omega, by omega⟩

theorem mul_pow_lt_middle {m e k : Nat} (hm : m < 2 * hiddenBit) (he : e ≤ k + 1) :
    m * 2 ^ e < (2 ^ 54 - 1) * 2 ^ k := by
  calc m * 2 ^ e ≤ (2 * hiddenBit - 1) * 2 ^ (k + 1) :=
        Nat.mul_le_mul (by omega) (Nat.pow_le_pow_right (by decide) he)
    _ = (2 * hiddenBit - 1) * 2 * 2 ^ k := by rw [Nat.pow_succ', Nat.mul_assoc]
    _ < (2 ^ 54 - 1) * 2 ^ k := Nat.mul_lt_mul_of_pos_right (by decide) (Nat.two_pow_pos k)

/-- **The integer part of a finite number** is within the range. -/
theorem truncate_lt_rangeLimit {x : Float} {negative : Bool} {mantissa : Nat} {exponent : Int}
    (h : parts x = .finite negative mantissa exponent) :
    (truncate negative mantissa exponent).natAbs < rangeLimit := by
  obtain ⟨hmantissa, hexponent⟩ := finite_bounds h
  have habs : (truncate negative mantissa exponent).natAbs =
      (scale mantissa exponent).1 / (scale mantissa exponent).2 := by
    cases negative with
    | true => exact (Int.natAbs_neg _).trans (Int.natAbs_natCast _)
    | false => exact Int.natAbs_natCast _
  rw [habs]
  cases exponent with
  | ofNat e =>
    rw [Int.ofNat_eq_natCast] at hexponent
    exact Nat.lt_of_le_of_lt (Nat.div_le_self _ _) (mul_pow_lt_middle hmantissa (by omega))
  | negSucc e =>
    have hsmall : mantissa * 2 ^ 0 < rangeLimit := mul_pow_lt_middle hmantissa (Nat.zero_le _)
    exact Nat.lt_of_le_of_lt (Nat.div_le_self _ _) (Nat.mul_one mantissa ▸ hsmall)

end DeliveryAudit.Number
