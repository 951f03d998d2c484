import DeliveryAudit.Proofs.Number.DecimalForm
import DeliveryAudit.Proofs.Roster.Counters
/-!
# What a range of counters expects

The ids of a range of counters are distinct, across changes of sign and of the
number of digits, so that none is lost where they are put on a roster: it
expects just the decimal forms of the counters, in their order, and none has
been found (`Roster.expects_range`).
-/

namespace DeliveryAudit

namespace Roster

variable {base count : Int} {n i : Nat} {id : Text} {r : Roster}

theorem contains_eq_true_iff : r.contains id = true ↔ id ∈ r.ids.toList :=
  Std.HashMap.contains_iff_mem.trans mem_flags_iff

/-! ## The ids of a range -/

/-- **No id is lost** when the ids of a range are put on a roster. -/
theorem ids_ofIds_idsFrom (base : Int) (n : Nat) :
    (ofIds (idsFrom base n)).ids.toList = idsFrom base n := by
  rw [ids_ofIds, eraseDups_of_nodup (nodup_idsFrom base n)]

theorem getElem?_idsFrom (base : Int) (h : i < n) :
    (idsFrom base n)[i]? = some (idOf (base + i)) := by
  rw [idsFrom, List.getElem?_map, List.getElem?_range h]
  rfl

theorem isDecimalForm_idOf (c : Int) : Number.IsDecimalForm (idOf c) c :=
  Number.isDecimalForm_iff.2 rfl

theorem mem_idsFrom_iff :
    id ∈ idsFrom base n ↔ ∃ c, base ≤ c ∧ c < base + n ∧ Number.IsDecimalForm id c := by
  rw [idsFrom_eq, List.mem_map]
  constructor
  · rintro ⟨c, hc, rfl⟩
    obtain ⟨hle, hlt⟩ := mem_counters.1 hc
    exact ⟨c, hle, hlt, isDecimalForm_idOf c⟩
  · rintro ⟨c, hle, hlt, hform⟩
    exact ⟨c, mem_counters.2 ⟨hle, hlt⟩, (Number.isDecimalForm_iff.1 hform).symm⟩

/-! ## The roster of a range -/

/-- Without a flag, every id is missing. -/
theorem missing_of_not_isFound (h : ∀ id, r.isFound id = false) : r.missing = r.ids.toList := by
  rw [missing, List.filter_eq_self]
  intro id _
  rw [h id]
  rfl

theorem foundCount_of_not_isFound (h : ∀ id, r.isFound id = false) : r.foundCount = 0 := by
  rw [foundCount, List.countP_eq_zero]
  intro id _
  rw [h id]
  exact Bool.false_ne_true

/-- **A roster that expects a range of counters**, and none of them found
yet. -/
structure Expects (base count : Int) (roster : Roster) : Prop where
  size : roster.size = count
  nodup : roster.ids.toList.Nodup
  /-- The ids stand in the order of the counters, each in the decimal form of
  its counter, as which it is read back. -/
  form : ∀ i : Nat, i < count → ∃ id, roster.ids.toList[i]? = some id ∧
    Number.IsDecimalForm id (base + i) ∧ Number.integer 10 id = .ok (base + i)
  contains_iff : ∀ id, roster.contains id = true ↔
    ∃ c, base ≤ c ∧ c < base + count ∧ Number.IsDecimalForm id c
  isFound : ∀ id, roster.isFound id = false
  missing : roster.missing = roster.ids.toList
  foundCount : roster.foundCount = 0

theorem expects_idsFrom (hstart : -(10 ^ Number.digitLimit) < base)
    (hend : base + n ≤ 10 ^ Number.digitLimit) : Expects base n (ofIds (idsFrom base n)) where
  size := by
    rw [size, ← Array.length_toList, ids_ofIds_idsFrom, length_idsFrom]
  nodup := Roster.nodup _
  form i hi := by
    have hlt : i < n := Int.ofNat_lt.1 hi
    refine ⟨idOf (base + i), ?_, isDecimalForm_idOf _, ?_⟩
    · rw [ids_ofIds_idsFrom, getElem?_idsFrom base hlt]
    · refine Number.integer_of_isDecimalForm (isDecimalForm_idOf _) ?_
      have hcast : (10 : Int) ^ Number.digitLimit = ((10 ^ Number.digitLimit : Nat) : Int) := by
        exact_mod_cast rfl
      omega
  contains_iff id := by
    rw [contains_eq_true_iff, ids_ofIds_idsFrom, mem_idsFrom_iff]
  isFound := isFound_ofIds _
  missing := missing_of_not_isFound (isFound_ofIds _)
  foundCount := foundCount_of_not_isFound (isFound_ofIds _)

/-- **A range of counters is expected exactly.** From any first counter on,
negative ones included, a positive number of counters of at most 4300 digits
has a roster that expects their decimal forms and nothing else; if any of them
has more digits, there is no roster. -/
theorem expects_range (base : Int) (hcount : 1 ≤ count) :
    (-(10 ^ Number.digitLimit) < base ∧ base + count ≤ 10 ^ Number.digitLimit →
      ∃ roster, ofRange count base = .ok roster ∧ Expects base count roster) ∧
    (¬ (-(10 ^ Number.digitLimit) < base ∧ base + count ≤ 10 ^ Number.digitLimit) →
      ofRange count base = .error .tooLong) := by
  have hsize : (count.toNat : Int) = count := Int.toNat_of_nonneg (by omega)
  refine ⟨fun h => ⟨_, by rw [ofRange_of_pos base hcount, if_pos h], ?_⟩, fun h => ?_⟩
  · have hexpects : Expects base count.toNat (ofIds (idsFrom base count.toNat)) :=
      expects_idsFrom h.1 (by rw [hsize]; exact h.2)
    rwa [hsize] at hexpects
  · rw [ofRange_of_pos base hcount, if_neg h]

/-! ## A range across zero

Its counters change their sign and their number of digits. -/

namespace AcrossZero

/-- Zero is expected after the negative counters, and without a sign. -/
theorem expects_acrossZero : ∃ roster, ofRange 21 (-10) = .ok roster ∧ roster.size = 21 ∧
    roster.ids.toList[0]? = some (Text.ofString "-10") ∧
    roster.ids.toList[9]? = some (Text.ofString "-1") ∧
    roster.ids.toList[10]? = some (Text.ofString "0") ∧
    roster.ids.toList[20]? = some (Text.ofString "10") ∧
    roster.contains (Text.ofString "-0") = false ∧ roster.foundCount = 0 := by
  have hpow : 10 ^ 2 ≤ 10 ^ Number.digitLimit := Nat.pow_le_pow_right (by decide) (by decide)
  have hlimit : -(10 ^ Number.digitLimit) < (-10 : Int) ∧
      -10 + (21 : Int) ≤ 10 ^ Number.digitLimit := by
    have hcast : ((10 ^ 2 : Nat) : Int) ≤ 10 ^ Number.digitLimit := by exact_mod_cast hpow
    omega
  have hcount : 1 ≤ (21 : Int) := by decide
  obtain ⟨roster, hroster, hexpects⟩ := (expects_range (-10) hcount).1 hlimit
  have hform : ∀ i : Nat, (i : Int) < 21 →
      roster.ids.toList[i]? = some (Text.ofString (toString (-10 + (i : Int)))) := by
    intro i hi
    obtain ⟨id, hid, hdecimal, -⟩ := hexpects.form i hi
    rw [hid, Number.isDecimalForm_iff.1 hdecimal]
  have hsigned : roster.contains (Text.ofString "-0") = false := by
    refine Bool.eq_false_iff.2 fun hzero => ?_
    obtain ⟨c, hle, hlt, hdecimal⟩ := (hexpects.contains_iff _).1 hzero
    -- It would be read as zero, whose form has no sign.
    have hread : Number.integer 10 (Text.ofString "-0") = .ok c :=
      Number.integer_of_isDecimalForm hdecimal (by omega)
    have hvalue : c = 0 := Except.ok.inj (hread.symm.trans (by decide))
    rw [Number.isDecimalForm_iff, hvalue] at hdecimal
    exact absurd hdecimal (by decide)
  exact ⟨roster, hroster, by exact_mod_cast hexpects.size, hform 0 (by decide),
    hform 9 (by decide), hform 10 (by decide), hform 20 (by decide), hsigned,
    hexpects.foundCount⟩

end AcrossZero

end Roster

end DeliveryAudit
