import DeliveryAudit.Proofs.Roster.Marking
import DeliveryAudit.Report
import Mathlib.Data.Int.Init
import Std.Data.String.ToInt
/-!
# The figures of a report

A run expects the ids of successive counters (`Roster.idsFrom`), which are
distinct, so that the roster holds as many ids as records were produced
(`Roster.ofRange_eq_ok`). What a report says of the lines that have been
marked on it follows from this (`Report.Figures`), and so does its text
(`Report.text?_eq_some`).
-/

namespace DeliveryAudit

theorem Number.eq_toString_of_decimal? {n : Int} {s : String} (h : decimal? n = some s) :
    s = toString n := by
  unfold decimal? at h
  split at h
  · exact (Option.some.inj h).symm
  · cases h

namespace Roster

/-! ## The ids of a run -/

theorem eraseDups_of_nodup {ids : List Text} (h : ids.Nodup) : ids.eraseDups = ids := by
  induction ids with
  | nil => exact List.eraseDups_nil
  | cons id ids ih =>
    obtain ⟨hid, hids⟩ := List.nodup_cons.1 h
    have hothers : ids.filter (fun x => !x == id) = ids := by
      rw [List.filter_eq_self]
      intro x hx
      simpa using fun he : x = id => hid (he ▸ hx)
    rw [List.eraseDups_cons, hothers, ih hids]

/-- The ids of `n` successive counters. -/
def idsFrom (base : Int) (n : Nat) : List Text :=
  (List.range n).map fun i : Nat => Text.ofString (toString (base + i))

variable {base count : Int} {n : Nat} {roster : Roster}

theorem length_idsFrom : (idsFrom base n).length = n := by
  rw [idsFrom, List.length_map, List.length_range]

/-- **Counters have distinct ids.** -/
theorem nodup_idsFrom (base : Int) (n : Nat) : (idsFrom base n).Nodup := by
  refine List.Nodup.map (fun i j hij => ?_) List.nodup_range
  have hcounters := Int.repr_injective (Text.ofString_injective hij)
  omega

/-- The ids of counters that can all be written. -/
theorem eq_map_of_mapM_idOf? {is : List Nat} {ids : List Text}
    (h : is.mapM (fun i : Nat => idOf? (base + i)) = some ids) :
    ids = is.map fun i : Nat => Text.ofString (toString (base + i)) := by
  induction is generalizing ids with
  | nil => exact (Option.some.inj h).symm
  | cons i is ih =>
    rw [List.mapM_cons] at h
    cases hid : idOf? (base + i) with
    | none => rw [hid] at h; cases h
    | some id =>
      cases hids : is.mapM (fun i : Nat => idOf? (base + i)) with
      | none => rw [hid, hids] at h; cases h
      | some ids' =>
        rw [hid, hids] at h
        obtain ⟨s, hs, rfl⟩ := Option.map_eq_some_iff.1 hid
        rw [← Option.some.inj h, ih hids, Number.eq_toString_of_decimal? hs]
        rfl

/-- **The roster of a run** is made of the ids of as many counters as
records were produced. -/
theorem ofRange_eq_ok (h : ofRange count base = .ok roster) :
    0 < count ∧ roster = ofIds (idsFrom base count.toNat) := by
  unfold ofRange at h
  split at h
  · cases h
  · rename_i hcount
    cases hids : (List.range count.toNat).mapM fun i : Nat => idOf? (base + i) with
    | none => rw [hids] at h; cases h
    | some ids =>
      rw [hids] at h
      exact ⟨by omega, by rw [← Except.ok.inj h, eq_map_of_mapM_idOf? hids]; rfl⟩

end Roster

namespace Report

variable {r : Report} {total : Int} {ids extracted : List Text} {delay : String}
variable {summary : List String}

/-! ## Figures -/

/-- **The figures of a report** on a run that expects distinct ids, and has
extracted an id from every line. -/
structure Figures (ids extracted : List Text) (r : Report) : Prop where
  totalInput : r.totalInput = ids.length
  totalFound : r.totalFound = extracted.length
  /-- The unique records are the expected ids that have been extracted. -/
  uniqueFound : r.uniqueFound = ids.countP (· ∈ extracted)
  duplicates : r.duplicates = r.totalFound - r.uniqueFound
  duplicates_nonneg : 0 ≤ r.duplicates
  missing : r.missing = r.totalInput - r.uniqueFound
  /-- The missing records are the expected ids that have not been
  extracted. -/
  missing_eq_length : r.missing = (ids.filter (· ∉ extracted)).length
  /-- The loss is in per cent, rounded down. -/
  lossPercent_mul_le : r.lossPercent * r.totalInput ≤ 100 * r.missing
  lt_lossPercent_mul : 100 * r.missing < (r.lossPercent + 1) * r.totalInput
  lossPercent_nonneg : 0 ≤ r.lossPercent
  lossPercent_le : r.lossPercent ≤ 100
  /-- All is lost just when nothing was found. -/
  lossPercent_eq_iff : r.lossPercent = 100 ↔ r.uniqueFound = 0

/-- The part of a total in per cent, rounded down. -/
theorem fdiv_bounds {missing total : Int} (htotal : 0 < total) (hmissing : 0 ≤ missing)
    (hle : missing ≤ total) :
    let loss := Int.fdiv (missing * 100) total
    loss * total ≤ 100 * missing ∧ 100 * missing < (loss + 1) * total ∧ 0 ≤ loss ∧ loss ≤ 100 ∧
      (loss = 100 ↔ missing = total) := by
  intro loss
  have hloss : loss = missing * 100 / total := Int.fdiv_eq_ediv_of_nonneg _ (Int.le_of_lt htotal)
  have hlower : loss * total ≤ 100 * missing := by
    rw [hloss, Int.mul_comm 100]
    exact Int.ediv_mul_le _ (Int.ne_of_gt htotal)
  have hupper : 100 * missing < (loss + 1) * total := by
    rw [hloss, Int.mul_comm 100]
    exact Int.lt_ediv_add_one_mul_self _ htotal
  have hnonneg : 0 ≤ loss := by
    rw [hloss]
    exact Int.ediv_nonneg (by omega) (Int.le_of_lt htotal)
  have hle : loss ≤ 100 := by
    rw [hloss]
    refine Int.ediv_le_of_le_mul htotal ?_
    omega
  refine ⟨hlower, hupper, hnonneg, hle, fun h => ?_, fun h => ?_⟩
  · rw [h] at hlower
    omega
  · rw [hloss, h]
    exact Int.mul_ediv_cancel_left _ (Int.ne_of_gt htotal)

/-- **A report by the ids that have been marked**, where the expected ids
are distinct. -/
theorem ofCounts?_marks (total totalFound : Int) (hids : ids.Nodup) (extracted : List Text)
    (delay : String) (summary : List String) :
    let unique : Int := ids.countP (· ∈ extracted)
    ofCounts? total totalFound (extracted.foldl Roster.mark (Roster.ofIds ids)) delay summary =
      if total < 1 then none
      else some ⟨total, totalFound, unique, totalFound - unique,
        Int.fdiv ((total - unique) * 100) total, total - unique, delay, summary⟩ := by
  rw [ofCounts?, Roster.foundCount_marks, Roster.eraseDups_of_nodup hids]

/-- **The figures of a report** on the roster of a run after some ids have
been marked. -/
theorem figures_of_ofCounts? (hids : ids.Nodup) (htotal : total = ids.length) (hpos : 0 < total)
    (h : ofCounts? total extracted.length (extracted.foldl Roster.mark (Roster.ofIds ids)) delay
      summary = some r) :
    Figures ids extracted r ∧ r.logDelay = delay ∧ r.summary = summary := by
  have hunique : (extracted.foldl Roster.mark (Roster.ofIds ids)).foundCount =
      ids.countP (· ∈ extracted) := by
    rw [Roster.foundCount_marks, Roster.eraseDups_of_nodup hids]
  have hduplicates := Roster.foundCount_marks_le ids extracted
  have hmissing := Roster.foundCount_add_length_missing
    (extracted.foldl Roster.mark (Roster.ofIds ids))
  rw [Roster.missing_marks, Roster.size, Roster.ids_foldl_mark, ← Array.length_toList,
    Roster.ids_ofIds, Roster.eraseDups_of_nodup hids, hunique] at hmissing
  rw [hunique] at hduplicates
  rw [ofCounts?_marks _ _ hids, if_neg (by omega)] at h
  cases h
  obtain ⟨hlower, hupper, hnonneg, hle, hall⟩ :=
    fdiv_bounds hpos (show 0 ≤ total - ids.countP (· ∈ extracted) by omega) (by omega)
  refine ⟨⟨htotal, rfl, rfl, rfl, ?_, rfl, ?_, hlower, hupper, hnonneg, hle, ?_⟩, rfl, rfl⟩
  · exact Int.sub_nonneg_of_le (Int.ofNat_le.2 hduplicates)
  · change total - _ = _
    omega
  · change _ = _ ↔ ((ids.countP (· ∈ extracted) : Nat) : Int) = 0
    rw [hall]
    omega

/-! ## The text -/

/-- The lines of a report whose figures can all be written. -/
def written (r : Report) : List String :=
  r.summary ++
    ["Total input record:  " ++ toString r.totalInput,
      "Total record in destination:  " ++ toString r.totalFound,
      "Unique record in destination:  " ++ toString r.uniqueFound,
      "Duplicate records:  " ++ toString r.duplicates,
      "Log Delay:  " ++ r.logDelay,
      "Log Loss:  " ++ toString r.lossPercent ++ " %"] ++
    if r.missing = 0 then [] else ["Number of missing log records:  " ++ toString r.missing]

/-- **The text of a report** has one line for every figure. -/
theorem text?_eq_some {text : String} (h : r.text? = some text) :
    text = "\n".intercalate r.written := by
  unfold text? at h
  obtain ⟨ls, hls, rfl⟩ := Option.map_eq_some_iff.1 h
  unfold lines? at hls
  simp only [Option.bind_eq_bind, Option.bind_eq_some_iff] at hls
  obtain ⟨totalInput, h₁, totalFound, h₂, uniqueFound, h₃, duplicates, h₄, lossPercent, h₅,
    hls⟩ := hls
  rw [Number.eq_toString_of_decimal? h₁, Number.eq_toString_of_decimal? h₂,
    Number.eq_toString_of_decimal? h₃, Number.eq_toString_of_decimal? h₄,
    Number.eq_toString_of_decimal? h₅] at hls
  by_cases hmissing : r.missing = 0
  · rw [if_pos (by rw [hmissing]; rfl)] at hls
    rw [written, if_pos hmissing, Option.some.inj hls]
  · rw [if_neg (by simpa using hmissing)] at hls
    obtain ⟨missing, h₆, hls⟩ := Option.bind_eq_some_iff.1 hls
    obtain ⟨s, hs, rfl⟩ := Option.map_eq_some_iff.1 h₆
    rw [written, if_neg hmissing, ← Option.some.inj hls, Number.eq_toString_of_decimal? hs]

end Report

end DeliveryAudit
