import DeliveryAudit.Proofs.Report.Figures
import DeliveryAudit.Proofs.Text.CodePoint
import Mathlib.Data.Finset.Sort
import Mathlib.Data.Int.ConditionallyCompleteOrder
import Mathlib.Data.Int.Interval
import Mathlib.Order.ConditionallyCompleteLattice.Basic
/-!
# Rosters of counters

An id is the decimal form of a counter. A form has as many characters as
the counter has digits (`Number.length_toString_le_iff`), so that the ids
of eight characters are those of the counters from 10000000 to 99999999
(`Roster.length_idOf_eq_iff`). A range of counters has a roster just when
all of them can be written (`Roster.ofRange_of_pos`).
-/

namespace DeliveryAudit

namespace Number

/-- **Decimal forms of at most `k` characters** are those of the numbers
below the `k`-th power of ten. -/
theorem length_toString_le_iff {n k : Nat} (hk : 0 < k) :
    (toString n).length ≤ k ↔ n < 10 ^ k := by
  rw [Nat.toString_eq_ofList_toDigits, String.length_ofList,
    Nat.length_toDigits_le_iff (by decide) hk]

/-- **An integer can be written** if it is within the limit, whatever its
sign. -/
theorem decimal?_eq_ite (n : Int) :
    decimal? n = if n.natAbs < 10 ^ digitLimit then some (toString n) else none := by
  simp only [decimal?, length_toString_le_iff (by decide : 0 < digitLimit)]

/-- A number that is not negative can be written if it is below the limit. -/
theorem decimal?_eq {n : Int} (hn : 0 ≤ n) :
    decimal? n = if n < 10 ^ digitLimit then some (toString n) else none := by
  obtain ⟨m, rfl⟩ := Int.eq_ofNat_of_zero_le hn
  have hlimit : (m : Int) < 10 ^ digitLimit ↔ m < 10 ^ digitLimit := by exact_mod_cast Iff.rfl
  simp only [decimal?_eq_ite, Int.natAbs_natCast, hlimit]

end Number

namespace Roster

/-! ## The id of a counter -/

/-- The decimal form of a counter. -/
def idOf (c : Int) : Text := Text.ofString (toString c)

variable {base count c : Int} {n : Nat}

theorem idOf_injective : Function.Injective idOf := fun _ _ h =>
  Int.repr_injective (Text.ofString_injective h)

theorem length_idOf_le_iff {k : Nat} (hc : 0 ≤ c) (hk : 0 < k) :
    (idOf c).length ≤ k ↔ c < 10 ^ k := by
  obtain ⟨m, rfl⟩ := Int.eq_ofNat_of_zero_le hc
  have hform : toString (m : Int) = toString m := rfl
  rw [idOf, Text.length_ofString, hform, Number.length_toString_le_iff hk]
  exact_mod_cast Iff.rfl

/-- **Eight characters** are the digits of the counters from 10000000 to
99999999. -/
theorem length_idOf_eq_iff (hc : 0 ≤ c) :
    (idOf c).length = 8 ↔ 10000000 ≤ c ∧ c ≤ 99999999 := by
  have hseven := length_idOf_le_iff hc (k := 7) (by decide)
  have height := length_idOf_le_iff hc (k := 8) (by decide)
  omega

/-! ## Ranges of counters -/

/-- `n` successive counters. -/
def counters (base : Int) (n : Nat) : List Int := (List.range n).map fun i : Nat => base + i

theorem idsFrom_eq (base : Int) (n : Nat) : idsFrom base n = (counters base n).map idOf := by
  rw [counters, List.map_map]
  rfl

theorem mem_counters : c ∈ counters base n ↔ base ≤ c ∧ c < base + n := by
  simp only [counters, List.mem_map, List.mem_range]
  constructor
  · rintro ⟨i, hi, rfl⟩
    omega
  · rintro ⟨hle, hlt⟩
    exact ⟨(c - base).toNat, by omega, by omega⟩

/-- Counters go up. -/
theorem pairwise_counters (base : Int) (n : Nat) : (counters base n).Pairwise (· < ·) :=
  List.pairwise_map.2 (List.pairwise_lt_range.imp fun h => by omega)

theorem nodup_counters (base : Int) (n : Nat) : (counters base n).Nodup :=
  (pairwise_counters base n).imp Int.ne_of_lt

/-- The counters with a property are a set in increasing order. -/
theorem filter_counters (base : Int) (n : Nat) (p : Int → Prop) [DecidablePred p] :
    (counters base n).filter p = ((Finset.Ico base (base + n)).filter p).sort := by
  have hset : ((counters base n).filter p).toFinset = (Finset.Ico base (base + n)).filter p := by
    ext c
    simp [mem_counters]
  have hsorted : ((counters base n).filter p).Pairwise (· ≤ ·) :=
    ((pairwise_counters base n).imp Int.le_of_lt).filter _
  rw [← hset]
  exact ((List.toFinset_sort (· ≤ ·) ((nodup_counters base n).filter _)).2 hsorted).symm

/-! ## Which ranges have a roster -/

/-- The ids of counters, if all can be written. -/
theorem mapM_idOf? (base : Int) (is : List Nat) :
    is.mapM (fun i : Nat => idOf? (base + i)) =
      if ∀ i ∈ is, (base + (i : Int)).natAbs < 10 ^ Number.digitLimit then
        some (is.map fun i : Nat => idOf (base + i))
      else none := by
  induction is with
  | nil => simp
  | cons i is ih =>
    have hcons : (∀ j ∈ i :: is, (base + (j : Int)).natAbs < 10 ^ Number.digitLimit) ↔
        (base + (i : Int)).natAbs < 10 ^ Number.digitLimit ∧
          ∀ j ∈ is, (base + (j : Int)).natAbs < 10 ^ Number.digitLimit :=
      List.forall_mem_cons
    rw [List.mapM_cons, ih, idOf?, Number.decimal?_eq_ite]
    by_cases hi : (base + (i : Int)).natAbs < 10 ^ Number.digitLimit
    · by_cases his : ∀ j ∈ is, (base + (j : Int)).natAbs < 10 ^ Number.digitLimit
      · rw [if_pos hi, if_pos his, if_pos (hcons.2 ⟨hi, his⟩)]
        rfl
      · rw [if_pos hi, if_neg his, if_neg fun h => his (hcons.1 h).2]
        rfl
    · rw [if_neg hi, if_neg fun h => hi (hcons.1 h).1]
      rfl

/-- **A range of counters has a roster if all of them can be written**: the
first is not too far below zero, and the last not too far above. -/
theorem ofRange_of_pos (base : Int) (hcount : 1 ≤ count) :
    ofRange count base =
      if -(10 ^ Number.digitLimit) < base ∧ base + count ≤ 10 ^ Number.digitLimit then
        .ok (ofIds (idsFrom base count.toNat))
      else .error .tooLong := by
  have hall : (∀ i ∈ List.range count.toNat,
      (base + (i : Int)).natAbs < 10 ^ Number.digitLimit) ↔
        -(10 ^ Number.digitLimit) < base ∧ base + count ≤ 10 ^ Number.digitLimit := by
    have hcast : (10 : Int) ^ Number.digitLimit = ((10 ^ Number.digitLimit : Nat) : Int) := by
      exact_mod_cast rfl
    rw [hcast]
    refine ⟨fun h => ?_, fun h i hi => ?_⟩
    · have hfirst := h 0 (List.mem_range.2 (by omega))
      have hlast := h (count.toNat - 1) (List.mem_range.2 (by omega))
      omega
    · have hlt := List.mem_range.1 hi
      omega
  simp only [ofRange, if_neg (Int.not_lt.2 hcount), mapM_idOf?, hall]
  by_cases h : -(10 ^ Number.digitLimit) < base ∧ base + count ≤ 10 ^ Number.digitLimit
  · rw [if_pos h, if_pos h]
    rfl
  · rw [if_neg h, if_neg h]

/-- From zero up, only the end of a range matters. -/
theorem ofRange_eq (hbase : 0 ≤ base) (hcount : 1 ≤ count) :
    ofRange count base =
      if base + count ≤ 10 ^ Number.digitLimit then .ok (ofIds (idsFrom base count.toNat))
      else .error .tooLong := by
  have hpos : (0 : Int) < 10 ^ Number.digitLimit := Int.pow_pos (by decide)
  have hstart : -(10 ^ Number.digitLimit) < base := by omega
  simp only [ofRange_of_pos base hcount, hstart, true_and]

end Roster

end DeliveryAudit
