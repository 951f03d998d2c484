import DeliveryAudit.Proofs.Audit.Counting
import DeliveryAudit.Proofs.Roster.Counters
import DeliveryAudit.Proofs.Tally.Operations
/-!
# Which losses a tally detects

A record is known by the first eight characters of its payload, so that
only a counter with eight digits is ever found, and just when a payload
starts with its digits. On a range of such counters the missing ids are
those of the counters that have not been delivered, and on any range every
other counter is missing, whatever is delivered
(`Roster.detectsLoss_of_ofRange`).
-/

namespace DeliveryAudit

namespace Record

variable {payload id : Text}

theorem take_eq_iff (h : idLength ≤ payload.length) :
    payload.take idLength = id ↔ id.length = idLength ∧ id <+: payload := by
  rw [List.prefix_iff_eq_take]
  constructor
  · rintro rfl
    rw [List.length_take_of_le h]
    exact ⟨rfl, rfl⟩
  · rintro ⟨hlength, hid⟩
    rw [hid, hlength]

variable [Bounds]

/-- **An id has eight characters**, from whatever line it is. -/
theorem length_id {enveloped : Bool} {v : Value} {r : Record} (h : ofLine enveloped v = .ok r) :
    r.id.length = idLength := by
  have hpayload : ∀ {p : Text}, ofPayload p = .ok r → r.id.length = idLength := by
    intro p hp
    unfold ofPayload at hp
    split at hp
    · cases hp
    · next hlong =>
      cases hp
      exact List.length_take_of_le (Nat.not_lt.1 hlong)
  unfold ofLine at h
  split at h
  · split at h
    · exact hpayload h
    · cases h
  · unfold ofValue at h
    split at h
    · exact hpayload h
    · split at h
      · cases h
      · split at h
        · split at h <;> cases h
        · split at h <;> cases h

end Record

namespace Tally

/-- Only ids of records in the stream are counted. -/
theorem mem_countedOf {id : Text} {stream : List (Except Record.Fault Record)} {t : Tally}
    (h : id ∈ t.countedOf stream) : ∃ r, .ok r ∈ stream ∧ r.id = id := by
  induction stream generalizing t with
  | nil => cases h
  | cons record rest ih =>
    cases record with
    | error f => cases h
    | ok r =>
      rw [countedOf] at h
      cases hcount : t.count? r.id with
      | none =>
        rw [hcount] at h
        cases h
      | some t' =>
        simp only [hcount, List.mem_cons] at h
        rcases h with rfl | h
        · exact ⟨r, List.mem_cons_self, rfl⟩
        · obtain ⟨r', hr', hid⟩ := ih h
          exact ⟨r', List.mem_cons_of_mem _ hr', hid⟩

end Tally

namespace Roster

variable {base count c : Int} {n : Nat} {payloads : List Text}
variable {delivered : List (Int × Text)}

/-- The payload of the record with a counter. -/
def payloadOf (c : Int) (rest : Text) : Text := idOf c ++ .scalar '_' :: rest

/-- The counters whose ids have not been marked are missing, in increasing
order. -/
theorem missing_counters (base : Int) (n : Nat) (marks : List Text) :
    (marks.foldl mark (ofIds (idsFrom base n))).missing =
      (((Finset.Ico base (base + n)).filter fun c => idOf c ∉ marks).sort).map idOf := by
  rw [missing_marks, eraseDups_of_nodup (nodup_idsFrom base n), idsFrom_eq, List.filter_map,
    ← filter_counters]
  rfl

/-- The counters whose ids have been marked are found. -/
theorem foundCount_counters (base : Int) (n : Nat) (marks : List Text) :
    (marks.foldl mark (ofIds (idsFrom base n))).foundCount =
      ((Finset.Ico base (base + n)).filter fun c => idOf c ∈ marks).card := by
  rw [foundCount_marks, eraseDups_of_nodup (nodup_idsFrom base n), idsFrom_eq, List.countP_map,
    List.countP_eq_length_filter, ← Finset.length_sort (· ≤ ·), ← filter_counters]
  rfl

/-- **A counter is found by the start of a payload**, if it has as many
digits as an id. -/
theorem isFound_counter (hbase : 0 ≤ base) (hc : c ∈ counters base n)
    (hpayloads : ∀ p ∈ payloads, Record.idLength ≤ p.length) :
    ((payloads.map (List.take Record.idLength)).foldl mark (ofIds (idsFrom base n))).isFound
        (idOf c) = true ↔
      (10000000 ≤ c ∧ c ≤ 99999999) ∧ ∃ p ∈ payloads, idOf c <+: p := by
  have hmem : idOf c ∈ idsFrom base n := by
    rw [idsFrom_eq]
    exact List.mem_map_of_mem hc
  have hnonneg : 0 ≤ c := Int.le_trans hbase (mem_counters.1 hc).1
  rw [isFound_marks, and_iff_right hmem, List.mem_map, ← length_idOf_eq_iff hnonneg]
  constructor
  · rintro ⟨p, hp, htake⟩
    obtain ⟨hlength, hstart⟩ := (Record.take_eq_iff (hpayloads p hp)).1 htake
    exact ⟨hlength, p, hp, hstart⟩
  · rintro ⟨hlength, p, hp, hstart⟩
    exact ⟨p, hp, (Record.take_eq_iff (hpayloads p hp)).2 ⟨hlength, hstart⟩⟩

/-- The marked counters are those that have been delivered. -/
theorem filter_delivered (hdelivered : ∀ d ∈ delivered, base ≤ d.1 ∧ d.1 < base + n) :
    ((Finset.Ico base (base + n)).filter fun c => idOf c ∈ delivered.map fun d => idOf d.1) =
      (delivered.map Prod.fst).toFinset := by
  ext c
  have hmarked : idOf c ∈ (delivered.map fun d => idOf d.1) ↔ c ∈ delivered.map Prod.fst := by
    rw [← List.mem_map_of_injective idOf_injective, List.map_map]
    rfl
  rw [Finset.mem_filter, hmarked, List.mem_toFinset, and_iff_right_iff_imp]
  intro hc
  obtain ⟨d, hd, rfl⟩ := List.mem_map.1 hc
  exact Finset.mem_Ico.2 (hdelivered d hd)

variable [Bounds]

/-- Bare payloads are counted by their starts, all of them. -/
theorem countAll_bare (h : ∀ p ∈ payloads, Record.idLength ≤ p.length) (roster : Roster) :
    (Tally.start roster).countAll (payloads.map fun p => Record.ofLine false (.text p)) =
      (⟨(payloads.map (List.take Record.idLength)).foldl mark roster, payloads.length, false⟩,
        none) := by
  have hcount := Tally.countAll_payloads h [] roster
  rw [List.append_nil, Tally.countAll] at hcount
  exact hcount

/-- **What a roster of counters tells of a delivery.** -/
structure DetectsLoss (base count : Int) (roster : Roster) : Prop where
  /-- Payloads that are long enough are all counted, and flag the counters
  of eight digits that one of them starts with. -/
  flagged : ∀ payloads : List Text, (∀ p ∈ payloads, Record.idLength ≤ p.length) →
    let counted := (Tally.start roster).countAll
      (payloads.map fun p => Record.ofLine false (.text p))
    counted.2 = none ∧ counted.1.lines = payloads.length ∧
      ∀ c, base ≤ c → c < base + count → (counted.1.roster.isFound (idOf c) = true ↔
        (10000000 ≤ c ∧ c ≤ 99999999) ∧ ∃ p ∈ payloads, idOf c <+: p)
  /-- Where all counters have eight digits, those that are delivered, in any
  order and any number of times, are found, and the others are missing. -/
  divided : 10000000 ≤ base → base + count ≤ 100000000 → ∀ delivered : List (Int × Text),
    (∀ d ∈ delivered, base ≤ d.1 ∧ d.1 < base + count) →
    let found := (delivered.map Prod.fst).toFinset
    let counted := (Tally.start roster).countAll
      (delivered.map fun d => Record.ofLine false (.text (payloadOf d.1 d.2)))
    counted.2 = none ∧
      counted.1.roster.missing = (Finset.Ico base (base + count) \ found).sort.map idOf ∧
      counted.1.roster.foundCount = found.card
  /-- Counters with fewer digits or more are missing, whatever the lines. -/
  missed : ∀ (enveloped : Bool) (lines : List Value),
    ((Finset.Ico base (base + count)).filter fun c => ¬ (10000000 ≤ c ∧ c ≤ 99999999)).card ≤
      ((Tally.start roster).countAll (lines.map (Record.ofLine enveloped))).1.roster.missing.length

theorem flagged_idsFrom (hbase : 0 ≤ base) (n : Nat)
    (hpayloads : ∀ p ∈ payloads, Record.idLength ≤ p.length) :
    let counted := (Tally.start (ofIds (idsFrom base n))).countAll
      (payloads.map fun p => Record.ofLine false (.text p))
    counted.2 = none ∧ counted.1.lines = payloads.length ∧
      ∀ c, base ≤ c → c < base + n → (counted.1.roster.isFound (idOf c) = true ↔
        (10000000 ≤ c ∧ c ≤ 99999999) ∧ ∃ p ∈ payloads, idOf c <+: p) := by
  intro counted
  have hcounted : counted = _ := countAll_bare hpayloads _
  rw [hcounted]
  exact ⟨rfl, rfl, fun c hle hlt => isFound_counter hbase (mem_counters.2 ⟨hle, hlt⟩) hpayloads⟩

/-- **Delivered counters are marked**, where the ids have as many characters
as are taken of a payload. -/
theorem countAll_delivered (hlength : ∀ d ∈ delivered, (idOf d.1).length = 8) (roster : Roster) :
    (Tally.start roster).countAll
        (delivered.map fun d => Record.ofLine false (.text (payloadOf d.1 d.2))) =
      (⟨(delivered.map fun d => idOf d.1).foldl mark roster, delivered.length, false⟩, none) := by
  have hmarks : (delivered.map fun d => payloadOf d.1 d.2).map (List.take Record.idLength) =
      delivered.map fun d => idOf d.1 := by
    rw [List.map_map]
    exact List.map_congr_left fun d hd => List.take_left' (hlength d hd)
  have hlong : ∀ p ∈ delivered.map fun d => payloadOf d.1 d.2, Record.idLength ≤ p.length := by
    intro p hp
    obtain ⟨d, hd, rfl⟩ := List.mem_map.1 hp
    rw [payloadOf, List.length_append, hlength d hd]
    exact Nat.le_add_right _ _
  have hcounted := countAll_bare hlong roster
  rw [hmarks, List.map_map, List.length_map] at hcounted
  exact hcounted

theorem divided_idsFrom (hbase : 10000000 ≤ base) (hend : base + n ≤ 100000000)
    (hdelivered : ∀ d ∈ delivered, base ≤ d.1 ∧ d.1 < base + n) :
    let found := (delivered.map Prod.fst).toFinset
    let counted := (Tally.start (ofIds (idsFrom base n))).countAll
      (delivered.map fun d => Record.ofLine false (.text (payloadOf d.1 d.2)))
    counted.2 = none ∧
      counted.1.roster.missing = (Finset.Ico base (base + n) \ found).sort.map idOf ∧
      counted.1.roster.foundCount = found.card := by
  intro found counted
  have hlength : ∀ d ∈ delivered, (idOf d.1).length = 8 := by
    intro d hd
    have hrange := hdelivered d hd
    exact (length_idOf_eq_iff (by omega)).2 (by omega)
  have hmarked := filter_delivered hdelivered
  have hcounted : counted = _ := countAll_delivered hlength _
  rw [hcounted]
  refine ⟨rfl, ?_, ?_⟩
  · rw [missing_counters, Finset.filter_not, hmarked]
  · rw [foundCount_counters, hmarked]

theorem missed_idsFrom (hbase : 0 ≤ base) (n : Nat) (enveloped : Bool) (lines : List Value) :
    ((Finset.Ico base (base + n)).filter fun c => ¬ (10000000 ≤ c ∧ c ≤ 99999999)).card ≤
      ((Tally.start (ofIds (idsFrom base n))).countAll
        (lines.map (Record.ofLine enveloped))).1.roster.missing.length := by
  rw [Tally.countAll_eq, Tally.start, missing_counters, List.length_map, Finset.length_sort]
  refine Finset.card_le_card fun c hc => ?_
  obtain ⟨hmem, houtside⟩ := Finset.mem_filter.1 hc
  refine Finset.mem_filter.2 ⟨hmem, fun hmarked => houtside ?_⟩
  -- Whatever has been marked is the id of a record.
  obtain ⟨r, hr, hid⟩ := Tally.mem_countedOf hmarked
  obtain ⟨v, -, hv⟩ := List.mem_map.1 hr
  have hlength : (idOf c).length = 8 := hid ▸ Record.length_id hv
  exact (length_idOf_eq_iff (Int.le_trans hbase (Finset.mem_Ico.1 hmem).1)).1 hlength

/-- **Exact detection of loss.** A range of counters from zero up has a
roster if all of them can be written, and there is none otherwise. The
roster tells just which of them have been delivered, as far as they have
eight digits. -/
theorem detectsLoss_of_ofRange (hbase : 0 ≤ base) (hcount : 1 ≤ count) :
    (base + count ≤ 10 ^ Number.digitLimit →
      ∃ roster, ofRange count base = .ok roster ∧ DetectsLoss base count roster) ∧
    (10 ^ Number.digitLimit < base + count → ofRange count base = .error .tooLong) := by
  have hsize : (count.toNat : Int) = count := Int.toNat_of_nonneg (by omega)
  refine ⟨fun h => ⟨_, by rw [ofRange_eq hbase hcount, if_pos h], ?_⟩, fun h => ?_⟩
  · rw [← hsize]
    exact {
      flagged := fun payloads hpayloads => flagged_idsFrom hbase _ hpayloads
      divided := fun hstart hend delivered hdelivered => divided_idsFrom hstart hend hdelivered
      missed := missed_idsFrom hbase _ }
  · rw [ofRange_eq hbase hcount, if_neg (Int.not_le.2 h)]

omit [Bounds] in
/-- A range that starts with the last counter that can be written, and goes
on, has no roster. -/
theorem ofRange_beyond_limit :
    ofRange 2 (10 ^ Number.digitLimit - 1) = .error .tooLong ∧
      ∀ roster, ofRange 2 (10 ^ Number.digitLimit - 1) ≠ .ok roster := by
  have hpos : (0 : Int) < 10 ^ Number.digitLimit := Int.pow_pos (by decide)
  have herror : ofRange 2 (10 ^ Number.digitLimit - 1) = .error .tooLong := by
    rw [ofRange_eq (by omega) (by decide), if_neg (by omega)]
  refine ⟨herror, fun roster h => ?_⟩
  rw [herror] at h
  cases h

end Roster

/-! ## A range that leaves the eight digits

Both of its counters are delivered, and the second has nine digits. -/

namespace Roster.NineDigits

local instance : Bounds := .usual

/-- The payloads of both counters. -/
def delivery : List Text :=
  [payloadOf 99999999 (Text.ofString "a"), payloadOf 100000000 (Text.ofString "b")]

/-- The second counter is missing, although it has been delivered. -/
theorem detectsLoss_nineDigits : ∃ roster, ofRange 2 99999999 = .ok roster ∧
    let t := ((Tally.start roster).countAll
      (delivery.map fun p => Record.ofLine false (.text p))).1
    t.roster.isFound (idOf 99999999) = true ∧ t.roster.isFound (idOf 100000000) = false ∧
      1 ≤ t.roster.missing.length := by
  have hlimit : (99999999 : Int) + 2 ≤ 10 ^ Number.digitLimit := by
    have hpow : 10 ^ 9 ≤ 10 ^ Number.digitLimit := Nat.pow_le_pow_right (by decide) (by decide)
    have hcast : ((10 ^ 9 : Nat) : Int) ≤ 10 ^ Number.digitLimit := by exact_mod_cast hpow
    omega
  obtain ⟨roster, hroster, hloss⟩ :=
    (@detectsLoss_of_ofRange 99999999 2 _ (by decide) (by decide)).1 hlimit
  obtain ⟨-, -, hflagged⟩ := hloss.flagged delivery (by decide)
  have hmissed := hloss.missed false (delivery.map .text)
  rw [List.map_map] at hmissed
  refine ⟨roster, hroster, ?_, ?_, le_trans (Finset.card_pos.2 ⟨100000000, ?_⟩) hmissed⟩
  · exact (hflagged 99999999 (by decide) (by decide)).2
      ⟨by decide, _, List.mem_cons_self, List.prefix_append _ _⟩
  · refine Bool.eq_false_iff.2 fun hfound => ?_
    have hrange := ((hflagged 100000000 (by decide) (by decide)).1 hfound).1
    omega
  · exact Finset.mem_filter.2 ⟨Finset.mem_Ico.2 (by decide), by decide⟩

end Roster.NineDigits

end DeliveryAudit
