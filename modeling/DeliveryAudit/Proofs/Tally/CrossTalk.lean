import DeliveryAudit.Proofs.Number.DecimalForm
import DeliveryAudit.Proofs.Tally.Accounting
import DeliveryAudit.Proofs.Tally.Loss
/-!
# Records that are taken for others

A record is known by the first eight characters of its payload. Where its
counter has more digits, these are the digits of another counter, which is
flagged in its place if it is expected too (`Roster.Spells`). A payload
starts with the id of the counter that it spells, and of no other
(`Roster.take_payloadOf_eq_iff`), so that a delivery flags just the
counters that its payloads spell (`Roster.isFound_countAll_payloadOf`). A
counter and another that is spelled by its payload lie in the same range
only if the range is long enough (`Roster.crossTalk_iff`).
-/

namespace DeliveryAudit

namespace Number

theorem toDigits_injective {m n : Nat} (h : Nat.toDigits 10 m = Nat.toDigits 10 n) : m = n := by
  rw [← Nat.ofDigitChars_ten_toDigits (n := m), h, Nat.ofDigitChars_ten_toDigits]

/-- **Digits at the start of others** are what is left when the last ones
are cut off. -/
theorem toDigits_prefix_iff {m n : Nat} (hm : 0 < m) :
    Nat.toDigits 10 m <+: Nat.toDigits 10 n ↔ ∃ k, n / 10 ^ k = m := by
  -- Unless it is the only one, the last digit of `n` is cut off.
  induction n using Nat.strongRecOn with
  | ind n ih =>
    constructor
    · intro h
      rcases Nat.lt_or_ge n 10 with hlt | hge
      · have hlength : (Nat.toDigits 10 n).length ≤ (Nat.toDigits 10 m).length := by
          rw [Nat.toDigits_of_lt_base hlt]
          exact Nat.length_toDigits_pos
        have heq := toDigits_injective (h.eq_of_length_le hlength)
        exact ⟨0, by rw [pow_zero, Nat.div_one, heq]⟩
      · rw [Nat.toDigits_of_base_le (by decide) hge, List.prefix_concat_iff,
          ← Nat.toDigits_of_base_le (by decide) hge] at h
        rcases h with h | h
        · exact ⟨0, by rw [pow_zero, Nat.div_one, toDigits_injective h]⟩
        · obtain ⟨k, hk⟩ := (ih (n / 10) (by omega)).1 h
          exact ⟨k + 1, by rw [Nat.pow_succ', ← Nat.div_div_eq_div_mul, hk]⟩
    · rintro ⟨k, hk⟩
      cases k with
      | zero => rw [pow_zero, Nat.div_one] at hk; rw [hk]
      | succ k =>
        rw [Nat.pow_succ', ← Nat.div_div_eq_div_mul] at hk
        have hge : 10 ≤ n := by
          by_contra hlt
          rw [Nat.div_eq_of_lt (Nat.not_le.1 hlt), Nat.zero_div] at hk
          omega
        have hshort := (ih (n / 10) (by omega)).2 ⟨k, hk⟩
        rw [Nat.toDigits_of_base_le (by decide) hge]
        exact hshort.trans (List.prefix_append _ _)

end Number

namespace Roster

variable {base count c d : Int} {roster : Roster} {rest : Text} {t : Tally}
variable {delivered : List (Int × Text)}

/-! ## Which counter a payload spells -/

theorem idOf_natCast (n : Nat) : idOf n = (Nat.toDigits 10 n).map .scalar :=
  Number.ofString_toString_natCast n

/-- Between a counter and what follows it stands no digit. -/
theorem separator_not_mem_idOf (hd : 0 ≤ d) : .scalar '_' ∉ idOf d := by
  obtain ⟨m, rfl⟩ := Int.eq_ofNat_of_zero_le hd
  rw [idOf_natCast, List.mem_map]
  rintro ⟨x, hx, heq⟩
  have hdigit := Nat.isDigit_of_mem_toDigits (by decide) (by decide) hx
  rw [CodePoint.scalar.inj heq] at hdigit
  cases hdigit

/-- **A payload starts with a counter** if that is what is left of its own
when the last digits are cut off. -/
theorem idOf_prefix_payloadOf_iff (hd : 0 < d) (hc : 0 ≤ c) :
    idOf d <+: payloadOf c rest ↔ ∃ k : Nat, c / 10 ^ k = d := by
  have hids : idOf d <+: payloadOf c rest ↔ idOf d <+: idOf c := by
    refine ⟨fun h => ?_, fun h => h.trans (List.prefix_append _ _)⟩
    have hbefore : idOf c ++ [.scalar '_'] <+: payloadOf c rest := ⟨rest, by simp [payloadOf]⟩
    rcases List.prefix_or_prefix_of_prefix h hbefore with h | h
    · rcases List.prefix_concat_iff.1 h with heq | h
      · refine absurd ?_ (separator_not_mem_idOf (Int.le_of_lt hd))
        rw [heq]
        simp
      · exact h
    · exact absurd (h.subset (by simp)) (separator_not_mem_idOf (Int.le_of_lt hd))
  obtain ⟨n, rfl⟩ := Int.eq_ofNat_of_zero_le hc
  obtain ⟨m, rfl⟩ := Int.eq_ofNat_of_zero_le (Int.le_of_lt hd)
  rw [hids, idOf_natCast, idOf_natCast,
    List.prefix_map_iff_of_injective fun _ _ h => CodePoint.scalar.inj h,
    Number.toDigits_prefix_iff (by omega)]
  exact exists_congr fun k => by exact_mod_cast Iff.rfl

/-- Whether the payload of a counter spells an expected id: eight digits,
which are left when the last ones of the counter are cut off. -/
def Spells (c d : Int) : Prop := (10000000 ≤ d ∧ d ≤ 99999999) ∧ ∃ k : Nat, c / 10 ^ k = d

/-- **The start of a payload** is the id of the counter that it spells. -/
theorem take_payloadOf_eq_iff (hd : 0 ≤ d) (hc : 0 ≤ c)
    (hlong : Record.idLength ≤ (payloadOf c rest).length) :
    (payloadOf c rest).take Record.idLength = idOf d ↔ Spells c d := by
  have hlength : (idOf d).length = Record.idLength ↔ 10000000 ≤ d ∧ d ≤ 99999999 :=
    length_idOf_eq_iff hd
  rw [Record.take_eq_iff hlong, Spells, hlength]
  exact and_congr_right fun hrange => idOf_prefix_payloadOf_iff (by omega) hc

theorem idOf_mem_of_ofRange (h : ofRange count base = .ok roster) (hle : base ≤ d)
    (hlt : d < base + count) : idOf d ∈ roster.ids.toList := by
  obtain ⟨hpos, rfl⟩ := ofRange_eq_ok h
  rw [ids_ofIds, eraseDups_of_nodup (nodup_idsFrom _ _), idsFrom_eq]
  exact List.mem_map_of_mem (mem_counters.2 (by omega))

/-- At first no counter is found. -/
theorem isFound_of_ofRange (h : ofRange count base = .ok roster) (id : Text) :
    roster.isFound id = false := by
  obtain ⟨-, rfl⟩ := ofRange_eq_ok h
  exact isFound_ofIds _ _

/-! ## What a delivery flags -/

/-- Payloads that are long enough are all counted, onto any open tally. -/
theorem countAll_payloadOf (hopen : t.isSealed = false)
    (hlong : ∀ x ∈ delivered, Record.idLength ≤ (payloadOf x.1 x.2).length) :
    t.countAll (delivered.map fun x => Record.ofPayload (payloadOf x.1 x.2)) =
      (⟨(delivered.map fun x => (payloadOf x.1 x.2).take Record.idLength).foldl mark t.roster,
        t.lines + delivered.length, false⟩, none) := by
  have hpayloads : ∀ p ∈ delivered.map fun x => payloadOf x.1 x.2,
      Record.idLength ≤ p.length := List.forall_mem_map.2 hlong
  have hcount := Tally.countAll_open hopen ((delivered.map fun x => payloadOf x.1 x.2).map
    fun p => (⟨p.take Record.idLength, p.drop Record.idLength⟩ : Record))
  rw [← Record.map_ofPayload hpayloads, Tally.withAll, hopen] at hcount
  simp only [List.map_map, List.length_map] at hcount
  exact hcount

/-- **A delivery flags the counters that its payloads spell**, and no
others. -/
theorem isFound_countAll_payloadOf (hopen : t.isSealed = false) (hd : 0 ≤ d)
    (hexpected : idOf d ∈ t.roster.ids.toList)
    (hdelivered : ∀ x ∈ delivered,
      0 ≤ x.1 ∧ Record.idLength ≤ (payloadOf x.1 x.2).length) :
    (t.countAll (delivered.map fun x => Record.ofPayload (payloadOf x.1 x.2))).1.roster.isFound
        (idOf d) = true ↔
      t.roster.isFound (idOf d) = true ∨ ∃ x ∈ delivered, Spells x.1 d := by
  rw [countAll_payloadOf hopen fun x hx => (hdelivered x hx).2, isFound_foldl_mark,
    and_iff_right hexpected, List.mem_map]
  refine or_congr_right (exists_congr fun x => and_congr_right fun hx => ?_)
  exact take_payloadOf_eq_iff hd (hdelivered x hx).1 (hdelivered x hx).2

/-! ## Ranges in which counters are taken for others -/

/-- Whether a counter of a range spells another. -/
def CrossTalk (base count : Int) : Prop :=
  ∃ c d, (base ≤ c ∧ c < base + count) ∧ (base ≤ d ∧ d < base + count) ∧ d ≠ c ∧ Spells c d

/-- A counter that spells another is ten times as large, or more. -/
theorem Spells.mul_le (h : Spells c d) (hne : d ≠ c) : 10 * d ≤ c := by
  obtain ⟨hrange, k, hk⟩ := h
  cases k with
  | zero => exact absurd (by rw [← hk, pow_zero, Int.ediv_one]) hne
  | succ k =>
    have hpow : (0 : Int) < 10 ^ (k + 1) := Int.pow_pos (by decide)
    calc 10 * d = 1 * (10 * d) := (Int.one_mul _).symm
      _ ≤ 10 ^ k * (10 * d) :=
        Int.mul_le_mul_of_nonneg_right (Int.pow_pos (by decide)) (by omega)
      _ = d * 10 ^ (k + 1) := by rw [Int.pow_succ, Int.mul_comm d, Int.mul_assoc]
      _ ≤ c := hk ▸ Int.ediv_mul_le _ (Int.ne_of_gt hpow)

/-- **Counters are taken for others** just in the ranges that hold a counter
of eight digits and its tenfold. -/
theorem crossTalk_iff (hbase : 0 ≤ base) :
    CrossTalk base count ↔ base ≤ 99999999 ∧ 10 * max base 10000000 < base + count := by
  constructor
  · rintro ⟨c, d, hc, hd, hne, hspells⟩
    have htenfold := hspells.mul_le hne
    obtain ⟨hrange, -⟩ := hspells
    omega
  · rintro ⟨hstart, hend⟩
    -- The first counter of eight digits is spelled by its tenfold.
    refine ⟨10 * max base 10000000, max base 10000000, by omega, by omega, by omega, by omega,
      1, ?_⟩
    rw [pow_one, Int.mul_ediv_cancel_left _ (by decide)]

/-- **The payloads of a run flag what they spell.** On an open tally of a
range of counters, a delivery of its counters is counted in full, and flags
just the counters that its payloads spell. A counter is flagged by the
payload of another only in a range with cross-talk, of which none has less
than 90000001 counters; in any other range a lost counter stays
missing. -/
theorem flags_iff_spelled (hbase : 0 ≤ base) (h : ofRange count base = .ok roster)
    (hopen : t.isSealed = false) (hids : t.roster.ids = roster.ids)
    (hdelivered : ∀ x ∈ delivered, (base ≤ x.1 ∧ x.1 < base + count) ∧
      Record.idLength ≤ (payloadOf x.1 x.2).length) :
    let counted := t.countAll (delivered.map fun x => Record.ofPayload (payloadOf x.1 x.2))
    counted.2 = none ∧ counted.1.lines = t.lines + delivered.length ∧
      (∀ d, base ≤ d → d < base + count → (counted.1.roster.isFound (idOf d) = true ↔
        t.roster.isFound (idOf d) = true ∨ ∃ x ∈ delivered, Spells x.1 d)) ∧
      (CrossTalk base count ↔ base ≤ 99999999 ∧ 10 * max base 10000000 < base + count) ∧
      (CrossTalk base count → 90000000 < count) ∧
      (¬ CrossTalk base count → ∀ d, base ≤ d → d < base + count →
        t.roster.isFound (idOf d) = false → (∀ x ∈ delivered, x.1 ≠ d) →
          counted.1.roster.isFound (idOf d) = false) := by
  intro counted
  have hcounted : counted = _ := countAll_payloadOf hopen fun x hx => (hdelivered x hx).2
  have hflags : ∀ d, base ≤ d → d < base + count → (counted.1.roster.isFound (idOf d) = true ↔
      t.roster.isFound (idOf d) = true ∨ ∃ x ∈ delivered, Spells x.1 d) := by
    intro d hle hlt
    refine isFound_countAll_payloadOf hopen (Int.le_trans hbase hle) ?_ fun x hx =>
      ⟨Int.le_trans hbase (hdelivered x hx).1.1, (hdelivered x hx).2⟩
    rw [hids]
    exact idOf_mem_of_ofRange h hle hlt
  have hcross : CrossTalk base count ↔
      base ≤ 99999999 ∧ 10 * max base 10000000 < base + count := crossTalk_iff hbase
  refine ⟨by rw [hcounted], by rw [hcounted], hflags, hcross, fun h => ?_, ?_⟩
  · have hwide := hcross.1 h
    omega
  · intro hnone d hle hlt hmissing hlost
    refine Bool.eq_false_iff.2 fun hfound => ?_
    rcases (hflags d hle hlt).1 hfound with hbefore | ⟨x, hx, hspells⟩
    · rw [hmissing] at hbefore
      cases hbefore
    · exact hnone ⟨x.1, d, (hdelivered x hx).1, ⟨hle, hlt⟩, (hlost x hx).symm, hspells⟩

/-! ## The longest range without, and one more

From 10000000 on, 90000000 counters have eight digits. The next counter
has nine, and spells the first. -/

namespace NinetyMillion

theorem exists_roster (count : Int) (hcount : 1 ≤ count) (hle : count ≤ 90000001) :
    ∃ roster, ofRange count 10000000 = .ok roster := by
  have hpow : 10 ^ 9 ≤ 10 ^ Number.digitLimit := Nat.pow_le_pow_right (by decide) (by decide)
  have hcast : ((10 ^ 9 : Nat) : Int) ≤ 10 ^ Number.digitLimit := by exact_mod_cast hpow
  rw [ofRange_eq (by decide) hcount, if_pos (by omega)]
  exact ⟨_, rfl⟩

/-- What follows the counter in a payload. -/
def tail : Text := Text.ofString "1639151827578_x"

/-- The record of the last counter is delivered, and that of the first is
missing. -/
theorem flags_ninetyMillion : ∃ roster, ofRange 90000000 10000000 = .ok roster ∧
    ¬ CrossTalk 10000000 90000000 ∧
    let counted := (Tally.start roster).countAll
      ([(99999999, tail)].map fun x => Record.ofPayload (payloadOf x.1 x.2))
    counted.2 = none ∧ counted.1.roster.isFound (idOf 99999999) = true ∧
      counted.1.roster.isFound (idOf 10000000) = false := by
  obtain ⟨roster, hroster⟩ := exists_roster 90000000 (by decide) (by decide)
  have hdelivered : ∀ x ∈ [((99999999 : Int), tail)],
      ((10000000 : Int) ≤ x.1 ∧ x.1 < 10000000 + 90000000) ∧
        Record.idLength ≤ (payloadOf x.1 x.2).length := by decide
  obtain ⟨hnone, -, hflags, -, hcross, hlost⟩ :=
    flags_iff_spelled (t := .start roster) (by decide) hroster rfl rfl hdelivered
  have hcalm : ¬ CrossTalk 10000000 90000000 := fun h => absurd (hcross h) (by decide)
  have hfresh := isFound_of_ofRange hroster
  refine ⟨roster, hroster, hcalm, hnone, ?_, ?_⟩
  · exact (hflags 99999999 (by decide) (by decide)).2
      (.inr ⟨_, List.mem_cons_self, by decide, 0, by decide⟩)
  · exact hlost hcalm 10000000 (by decide) (by decide) (hfresh _) (by decide)

/-- With one counter more, the record of the first is found although it is
lost: the payload of the last flags it. -/
theorem lost_found : ∃ roster, ofRange 90000001 10000000 = .ok roster ∧
    (idOf 10000000 ∈ roster.ids.toList ∧ roster.isFound (idOf 10000000) = false) ∧
    (idOf 100000000 ∈ roster.ids.toList ∧ idOf 100000000 ≠ idOf 10000000) ∧
    Record.idLength ≤ (payloadOf 100000000 tail).length ∧
    ∃ t, (Tally.start roster).countAll [Record.ofPayload (payloadOf 100000000 tail)] = (t, none) ∧
      t.roster.isFound (idOf 10000000) = true ∧ t.roster.isFound (idOf 100000000) = false := by
  obtain ⟨roster, hroster⟩ := exists_roster 90000001 (by decide) (by decide)
  have hfresh := isFound_of_ofRange hroster
  have hexpected : ∀ d, 10000000 ≤ d → d < 10000000 + 90000001 → idOf d ∈ roster.ids.toList :=
    fun d => idOf_mem_of_ofRange hroster
  have hdelivered : ∀ x ∈ [((100000000 : Int), tail)],
      0 ≤ x.1 ∧ Record.idLength ≤ (payloadOf x.1 x.2).length := by decide
  have hcounted := countAll_payloadOf (t := .start roster) rfl fun x hx => (hdelivered x hx).2
  have hflags := fun d hd hmem => isFound_countAll_payloadOf (t := .start roster) (d := d)
    rfl hd hmem hdelivered
  rw [hcounted] at hflags
  rw [List.map_singleton] at hcounted
  refine ⟨roster, hroster, ⟨hexpected _ (by decide) (by decide), hfresh _⟩,
    ⟨hexpected _ (by decide) (by decide), fun h => absurd (idOf_injective h) (by decide)⟩,
    by decide, _, hcounted, ?_, ?_⟩
  · exact (hflags 10000000 (by decide) (hexpected _ (by decide) (by decide))).2
      (.inr ⟨_, List.mem_cons_self, by decide, 1, by decide⟩)
  · refine Bool.eq_false_iff.2 fun hfound => ?_
    rcases (hflags 100000000 (by decide) (hexpected _ (by decide) (by decide))).1 hfound with
      hbefore | ⟨x, hx, hspells⟩
    · exact absurd ((hfresh _).symm.trans hbefore) Bool.false_ne_true
    · exact absurd hspells.1 (by decide)

end NinetyMillion

end Roster

end DeliveryAudit
