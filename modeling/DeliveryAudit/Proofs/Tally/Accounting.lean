import DeliveryAudit.Proofs.Audit.Counting
import DeliveryAudit.Proofs.Report.Figures
import DeliveryAudit.Proofs.Tally.Operations
import Mathlib.Algebra.BigOperators.Group.List.Lemmas
import Mathlib.Algebra.GroupWithZero.Nat
import Mathlib.Data.List.Dedup
/-!
# What the records of a stream add up to

A stream of records leaves the same tally in whatever order they come
(`Tally.same_withAll_of_perm`) and however they are cut into batches
(`Tally.performAll_inBatches`). One more record is either a new one or a
duplicate in the report (`Tally.report?_snoc`), so that by induction more
records find no fewer and lose no more (`Tally.follows_withAll`). All
duplicates are explained by the ids that have occurred
(`Tally.extraLines_add_length`).
-/

namespace DeliveryAudit

namespace Roster

variable {r : Roster} {id x : Text} {marks : List Text}

/-- **One more mark** finds one more id, unless it is not expected or has
been found before. -/
theorem foundCount_mark (r : Roster) (id : Text) :
    (r.mark id).foundCount =
      if id ∈ r.ids.toList ∧ r.isFound id = false then r.foundCount + 1 else r.foundCount := by
  by_cases hnew : id ∈ r.ids.toList ∧ r.isFound id = false
  · obtain ⟨hid, hmissing⟩ := hnew
    -- The other ids, on both sides of this one, keep their flags.
    obtain ⟨before, after, hids⟩ := List.append_of_mem hid
    have hnodup := r.nodup
    rw [hids, List.nodup_middle, List.nodup_cons] at hnodup
    have hother : ∀ x ∈ before ++ after, ((r.mark id).isFound x = true ↔ r.isFound x = true) := by
      intro x hx
      rw [isFound_mark]
      exact or_iff_left fun hm => hnodup.1 (hm.2 ▸ hx)
    have hmarked : (r.mark id).isFound id = true := isFound_mark.2 (.inr ⟨hid, rfl⟩)
    rw [if_pos ⟨hid, hmissing⟩, foundCount, foundCount, ids_mark, hids, List.countP_append,
      List.countP_append, List.countP_cons_of_pos hmarked,
      List.countP_cons_of_neg (Bool.eq_false_iff.1 hmissing),
      List.countP_congr fun x hx => hother x (List.mem_append_left _ hx),
      List.countP_congr fun x hx => hother x (List.mem_append_right _ hx), Nat.add_assoc]
  · rw [if_neg hnew, foundCount, foundCount, ids_mark]
    refine List.countP_congr fun x hx => ?_
    rw [isFound_mark, or_iff_left_iff_imp]
    rintro ⟨-, rfl⟩
    by_contra hmissing
    exact hnew ⟨hx, Bool.eq_false_iff.2 hmissing⟩

/-- The flags are those of the ids. -/
theorem getElem?_flags (r : Roster) (id : Text) :
    r.flags[id]? = if id ∈ r.ids.toList then some (r.isFound id) else none := by
  by_cases h : id ∈ r.flags
  · rw [if_pos (mem_flags_iff.1 h)]
    exact Std.HashMap.getElem?_eq_some_getD h
  · rw [if_neg fun hm => h (mem_flags_iff.2 hm), Std.HashMap.getElem?_eq_none h]

end Roster

namespace Report

variable {r r' r'' : Report} {total : Int}

/-- **A report after more records** finds no fewer records, unique or
duplicate, and loses no more. -/
structure Follows (r r' : Report) : Prop where
  uniqueFound : r.uniqueFound ≤ r'.uniqueFound
  duplicates : r.duplicates ≤ r'.duplicates
  missing : r'.missing ≤ r.missing
  lossPercent : r'.lossPercent ≤ r.lossPercent

theorem Follows.refl (r : Report) : Follows r r :=
  ⟨Int.le_refl _, Int.le_refl _, Int.le_refl _, Int.le_refl _⟩

theorem Follows.trans (h : Follows r r') (h' : Follows r' r'') : Follows r r'' :=
  ⟨Int.le_trans h.uniqueFound h'.uniqueFound, Int.le_trans h.duplicates h'.duplicates,
    Int.le_trans h'.missing h.missing, Int.le_trans h'.lossPercent h.lossPercent⟩

/-- On as many records, what is not found is lost. -/
theorem follows_of_le {found found' : Int} {roster roster' : Roster} {delay : String}
    {summary : List String} (htotal : 1 ≤ total)
    (h : ofCounts? total found roster delay summary = some r)
    (h' : ofCounts? total found' roster' delay summary = some r')
    (hunique : r.uniqueFound ≤ r'.uniqueFound) (hduplicates : r.duplicates ≤ r'.duplicates) :
    Follows r r' := by
  rw [ofCounts?, if_neg (Int.not_lt.2 htotal)] at h h'
  obtain rfl := Option.some.inj h
  obtain rfl := Option.some.inj h'
  have hmissing : total - roster'.foundCount ≤ total - roster.foundCount :=
    Int.sub_le_sub_left hunique _
  refine ⟨hunique, hduplicates, hmissing, ?_⟩
  change Int.fdiv _ total ≤ Int.fdiv _ total
  rw [Int.fdiv_eq_ediv_of_nonneg _ (by omega), Int.fdiv_eq_ediv_of_nonneg _ (by omega)]
  exact Int.ediv_le_ediv (by omega) (by omega)

end Report

namespace Tally

variable {t t' : Tally} {xs ys more : List Record} {total : Int} {delay : String}
variable {summary : List String}

/-! ## Sameness -/

/-- **Tallies that are the same**: nothing that is asked of them tells them
apart, not even the order of the ids. -/
structure Same (t t' : Tally) : Prop where
  ids : t.roster.ids = t'.roster.ids
  flags : t.roster.flags.Equiv t'.roster.flags
  lines : t.lines = t'.lines
  isSealed : t.isSealed = t'.isSealed

theorem Same.isFound (h : Same t t') : t.roster.isFound = t'.roster.isFound :=
  funext fun _ => h.flags.getD_eq

theorem Same.missing (h : Same t t') : t.roster.missing = t'.roster.missing := by
  rw [Roster.missing, Roster.missing, h.isFound, h.ids]

/-- The report on the lines of a tally. -/
def report? (t : Tally) (total : Int) (delay : String) (summary : List String) :
    Option Report :=
  Report.ofCounts? total t.lines t.roster delay summary

/-- The same tally, the same report. -/
theorem Same.report? (h : Same t t') (total : Int) (delay : String) (summary : List String) :
    t.report? total delay summary = t'.report? total delay summary := by
  have hfound : t.roster.foundCount = t'.roster.foundCount := by
    rw [Roster.foundCount, Roster.foundCount, h.isFound, h.ids]
  rw [Tally.report?, Tally.report?, Report.ofCounts?, Report.ofCounts?, hfound, h.lines]

/-! ## Records, in any order and in any batches -/

/-- The tally with all these records. -/
def withAll (t : Tally) (xs : List Record) : Tally :=
  ⟨(xs.map Record.id).foldl Roster.mark t.roster, t.lines + xs.length, t.isSealed⟩

/-- An open tally counts all records of a stream. -/
theorem countAll_open (hopen : t.isSealed = false) (xs : List Record) :
    t.countAll (xs.map .ok) = (t.withAll xs, none) := by
  obtain ⟨roster, n, closed⟩ := t
  cases hopen
  have h := countAll_records xs [] roster n
  rw [List.append_nil] at h
  exact h

theorem withAll_append (t : Tally) (xs ys : List Record) :
    t.withAll (xs ++ ys) = (t.withAll xs).withAll ys := by
  simp only [withAll, List.map_append, List.foldl_append, List.length_append, Nat.add_assoc]

theorem isFound_withAll (t : Tally) (xs : List Record) (id : Text) :
    (t.withAll xs).roster.isFound id = true ↔
      t.roster.isFound id = true ∨ (id ∈ t.roster.ids.toList ∧ id ∈ xs.map Record.id) :=
  Roster.isFound_foldl_mark _ _ _

theorem ids_withAll (t : Tally) (xs : List Record) :
    (t.withAll xs).roster.ids = t.roster.ids :=
  Roster.ids_foldl_mark _ _

/-- **The order of records does not matter.** -/
theorem same_withAll_of_perm (t : Tally) (h : xs.Perm ys) :
    Same (t.withAll xs) (t.withAll ys) := by
  have hids : (t.withAll xs).roster.ids = (t.withAll ys).roster.ids :=
    (ids_withAll t xs).trans (ids_withAll t ys).symm
  have hfound : ∀ id, (t.withAll xs).roster.isFound id = (t.withAll ys).roster.isFound id := by
    intro id
    rw [Bool.eq_iff_iff, isFound_withAll, isFound_withAll, (h.map Record.id).mem_iff]
  refine ⟨hids, Std.HashMap.Equiv.of_forall_getElem?_eq fun id => ?_, ?_, rfl⟩
  · rw [Roster.getElem?_flags, Roster.getElem?_flags, hids, hfound]
  · rw [withAll, withAll, h.length_eq]

/-- The calls that count a stream batch by batch. -/
def inBatches (batches : List (List Record)) : List Operation :=
  batches.map fun batch => .reconcile (batch.map .ok)

/-- **Batches are counted like the whole stream**, each to its end. -/
theorem performAll_inBatches (hopen : t.isSealed = false) (batches : List (List Record)) :
    t.performAll (inBatches batches) = t.withAll batches.flatten := by
  induction batches generalizing t with
  | nil => rfl
  | cons batch batches ih =>
    have hbatch : (t.perform (.reconcile (batch.map .ok))).1 = t.withAll batch := by
      rw [perform, countAll_open hopen]
    rw [inBatches, List.map_cons, performAll, hbatch, List.flatten_cons, withAll_append]
    exact ih hopen

/-! ## What duplicates are -/

theorem sum_pred_add_length {α : Type*} {l : List α} {f : α → Nat} (h : ∀ x ∈ l, 1 ≤ f x) :
    (l.map fun x => f x - 1).sum + l.length = (l.map f).sum := by
  induction l with
  | nil => rfl
  | cons x l ih =>
    have hx := h x List.mem_cons_self
    have hl := ih fun y hy => h y (List.mem_cons_of_mem _ hy)
    simp only [List.map_cons, List.sum_cons, List.length_cons]
    omega

/-- The occurrences of distinct ids in a log are its entries of these
ids. -/
theorem sum_count_eq_countP {ids : List Text} (hids : ids.Nodup) (log : List Text) :
    ((ids.filter (· ∈ log)).map fun id => log.count id).sum = log.countP (· ∈ ids) := by
  have hperm : (ids.filter (· ∈ log)).Perm (log.dedup.filter (· ∈ ids)) := by
    rw [List.perm_ext_iff_of_nodup (hids.filter _) (log.nodup_dedup.filter _)]
    intro id
    simp only [List.mem_filter, List.mem_dedup, decide_eq_true_eq]
    exact and_comm
  rw [(hperm.map _).sum_eq]
  -- Mathlib counts by another instance of equality.
  convert List.sum_map_count_dedup_filter_eq_countP (fun id => decide (id ∈ ids)) log
  rfl

/-- The lines that are more than needed: every occurrence of an expected id
but one, and every other id. -/
def extraLines (ids log : List Text) : Nat :=
  ((ids.filter (· ∈ log)).map fun id => log.count id - 1).sum + log.countP (· ∉ ids)

/-- **Every line is the first of an expected id or extra.** -/
theorem extraLines_add_length {ids : List Text} (hids : ids.Nodup) (log : List Text) :
    extraLines ids log + (ids.filter (· ∈ log)).length = log.length := by
  have hoccurs : ∀ id ∈ ids.filter (· ∈ log), 1 ≤ log.count id := fun id hid =>
    List.count_pos_iff.2 (of_decide_eq_true (List.mem_filter.1 hid).2)
  have hsum := sum_pred_add_length hoccurs
  have hsplit : log.length = log.countP (· ∈ ids) + log.countP (· ∉ ids) := by
    simpa using List.length_eq_countP_add_countP (l := log) fun id => decide (id ∈ ids)
  rw [sum_count_eq_countP hids] at hsum
  rw [extraLines]
  omega

/-- The ids found on a tally without flags are those of its records. -/
theorem foundCount_withAll (hfresh : ∀ id, t.roster.isFound id = false) (xs : List Record) :
    (t.withAll xs).roster.foundCount =
      (t.roster.ids.toList.filter (· ∈ xs.map Record.id)).length := by
  rw [Roster.foundCount, ids_withAll, ← List.countP_eq_length_filter]
  refine List.countP_congr fun id hid => ?_
  rw [isFound_withAll, hfresh, decide_eq_true_iff, and_iff_right hid]
  exact or_iff_right Bool.false_ne_true

/-! ## Reports on more and more records -/

/-- There is a report on any number of records that is positive. -/
theorem report?_eq (t : Tally) (htotal : 1 ≤ total) (delay : String) (summary : List String) :
    t.report? total delay summary =
      some ⟨total, t.lines, t.roster.foundCount, t.lines - t.roster.foundCount,
        Int.fdiv ((total - t.roster.foundCount) * 100) total, total - t.roster.foundCount, delay,
        summary⟩ := by
  rw [report?, Report.ofCounts?, if_neg (Int.not_lt.2 htotal)]

/-- **What one more record changes in a report.** It is a new unique record
or a duplicate, and never both. -/
theorem report?_snoc (t : Tally) (xs : List Record) (x : Record) (htotal : 1 ≤ total)
    (delay : String) (summary : List String) :
    ∃ r r', (t.withAll xs).report? total delay summary = some r ∧
      (t.withAll (xs ++ [x])).report? total delay summary = some r' ∧
      if x.id ∈ t.roster.ids.toList ∧ (t.withAll xs).roster.isFound x.id = false then
        r'.uniqueFound = r.uniqueFound + 1 ∧ r'.duplicates = r.duplicates
      else
        r'.uniqueFound = r.uniqueFound ∧ r'.duplicates = r.duplicates + 1 := by
  have hroster : (t.withAll (xs ++ [x])).roster = (t.withAll xs).roster.mark x.id := by
    rw [withAll_append]
    rfl
  have hlines : (t.withAll (xs ++ [x])).lines = (t.withAll xs).lines + 1 := by
    rw [withAll_append]
    rfl
  have hfound := Roster.foundCount_mark (t.withAll xs).roster x.id
  rw [← hroster, ids_withAll] at hfound
  refine ⟨_, _, report?_eq _ htotal _ _, report?_eq _ htotal _ _, ?_⟩
  by_cases hnew : x.id ∈ t.roster.ids.toList ∧ (t.withAll xs).roster.isFound x.id = false
  · rw [if_pos hnew] at hfound ⊢
    simp only [hfound, hlines]
    omega
  · rw [if_neg hnew] at hfound ⊢
    simp only [hfound, hlines]
    exact ⟨trivial, by omega⟩

/-- **More records find no fewer and lose no more.** -/
theorem follows_withAll (t : Tally) (more : List Record) (htotal : 1 ≤ total) (delay : String)
    (summary : List String) :
    ∃ r r', t.report? total delay summary = some r ∧
      (t.withAll more).report? total delay summary = some r' ∧ Report.Follows r r' := by
  -- The last record comes after the others.
  induction more using List.reverseRecOn with
  | nil =>
    have h := report?_eq t htotal delay summary
    exact ⟨_, _, h, h, Report.Follows.refl _⟩
  | append_singleton more x ih =>
    obtain ⟨r, r', hr, hr', hfollows⟩ := ih
    obtain ⟨s, s', hs, hs', hstep⟩ := report?_snoc t more x htotal delay summary
    rw [hr', Option.some.injEq] at hs
    subst hs
    refine ⟨r, s', hr, hs', hfollows.trans (Report.follows_of_le htotal hr' hs' ?_ ?_)⟩
    · split at hstep
      · exact Int.le.intro 1 hstep.1.symm
      · exact Int.le_of_eq hstep.1.symm
    · split at hstep
      · exact Int.le_of_eq hstep.2.symm
      · exact Int.le.intro 1 hstep.2.symm

/-! ## The account -/

/-- **The account of a stream of records** that is counted onto a tally. -/
structure Accounts (t : Tally) (xs : List Record) : Prop where
  /-- All records are counted, and more can be. -/
  all_counted : (t.countAll (xs.map .ok)).2 = none ∧
    (t.countAll (xs.map .ok)).1.lines = t.lines + xs.length ∧
    (t.countAll (xs.map .ok)).1.isSealed = false
  any_order : ∀ ys : List Record, ys.Perm xs → (t.countAll (ys.map .ok)).2 = none ∧
    Same (t.countAll (ys.map .ok)).1 (t.countAll (xs.map .ok)).1
  any_batches : ∀ batches : List (List Record), batches.flatten = xs →
    t.performAll (inBatches batches) = (t.countAll (xs.map .ok)).1
  /-- On a fresh tally, the duplicates are the repeated occurrences of
  expected ids and the records of ids that are not expected. -/
  duplicates : t.lines = 0 → (∀ id, t.roster.isFound id = false) →
    ∀ total delay summary, 1 ≤ total → ∃ r,
      (t.countAll (xs.map .ok)).1.report? total delay summary = some r ∧
      r.duplicates = extraLines t.roster.ids.toList (xs.map Record.id)
  /-- One more record is a new unique record, if it is expected and has not
  been found, and else a duplicate. -/
  one_more : ∀ x total delay summary, 1 ≤ total → ∃ r r',
    (t.countAll (xs.map .ok)).1.report? total delay summary = some r ∧
    (t.countAll ((xs ++ [x]).map .ok)).1.report? total delay summary = some r' ∧
    if x.id ∈ t.roster.ids.toList ∧
        (t.countAll (xs.map .ok)).1.roster.isFound x.id = false then
      r'.uniqueFound = r.uniqueFound + 1 ∧ r'.duplicates = r.duplicates
    else
      r'.uniqueFound = r.uniqueFound ∧ r'.duplicates = r.duplicates + 1
  more : ∀ more total delay summary, 1 ≤ total → ∃ r r',
    (t.countAll (xs.map .ok)).1.report? total delay summary = some r ∧
    (t.countAll ((xs ++ more).map .ok)).1.report? total delay summary = some r' ∧
    Report.Follows r r'

/-- **Accounting does not depend on order or batches.** An open tally
counts a stream of records to its end, and its account is the same in any
order and any batches. On a fresh tally all duplicates are explained, and
more records never make a report worse. -/
theorem accounts_of_open (hopen : t.isSealed = false) (xs : List Record) : Accounts t xs := by
  have hcount := countAll_open hopen
  refine ⟨?_, fun ys hys => ?_, fun batches hbatches => ?_, ?_, ?_, ?_⟩
  · rw [hcount]
    exact ⟨rfl, rfl, hopen⟩
  · rw [hcount, hcount]
    exact ⟨rfl, same_withAll_of_perm t hys⟩
  · rw [performAll_inBatches hopen, hbatches, hcount]
  · intro hlines hfresh total delay summary htotal
    rw [hcount]
    refine ⟨_, report?_eq _ htotal _ _, ?_⟩
    have hextra := extraLines_add_length t.roster.nodup (xs.map Record.id)
    rw [← foundCount_withAll hfresh xs, List.length_map] at hextra
    have hall : (t.withAll xs).lines = xs.length := by rw [withAll, hlines, Nat.zero_add]
    simp only [hall]
    omega
  · intro x total delay summary htotal
    rw [hcount, hcount]
    exact report?_snoc t xs x htotal delay summary
  · intro more total delay summary htotal
    rw [hcount, hcount, withAll_append]
    exact follows_withAll _ more htotal delay summary

/-! ## Four records in another order

Of three expected ids one is delivered twice and one is not. One record is
not expected. -/

namespace FourRecords

/-- The record of a letter. -/
def record (c : Char) : Record := ⟨[.scalar c], []⟩

/-- The records, as they are delivered. -/
def delivery : List Record := [record 'a', record 'z', record 'a', record 'b']

/-- The tally before the delivery. -/
def fresh : Tally := start (Roster.ofIds [[.scalar 'a'], [.scalar 'b'], [.scalar 'c']])

/-- Two duplicates are reported, also if the records come in two batches,
and the record that is not there yet would be no duplicate. -/
theorem accounts_fourRecords :
    (fresh.countAll (delivery.map .ok)).1.lines = 4 ∧
    Same (fresh.countAll (delivery.reverse.map .ok)).1
      (fresh.countAll (delivery.map .ok)).1 ∧
    fresh.performAll (inBatches [[record 'a'], [], [record 'z', record 'a', record 'b']]) =
      (fresh.countAll (delivery.map .ok)).1 ∧
    (∃ r, (fresh.countAll (delivery.map .ok)).1.report? 3 "0.0" [] = some r ∧
      r.duplicates = 2) ∧
    ∃ r r', (fresh.countAll (delivery.map .ok)).1.report? 3 "0.0" [] = some r ∧
      (fresh.countAll ((delivery ++ [record 'c']).map .ok)).1.report? 3 "0.0" [] = some r' ∧
      r'.uniqueFound = r.uniqueFound + 1 ∧ r'.duplicates = r.duplicates := by
  have h := accounts_of_open (t := fresh) rfl delivery
  have hfresh : ∀ id, fresh.roster.isFound id = false := Roster.isFound_ofIds _
  have hids : fresh.roster.ids.toList = [[.scalar 'a'], [.scalar 'b'], [.scalar 'c']] :=
    Roster.ids_ofIds _
  obtain ⟨r, hr, hduplicates⟩ := h.duplicates rfl hfresh 3 "0.0" [] (by decide)
  obtain ⟨s, s', hs, hs', hmore⟩ := h.one_more (record 'c') 3 "0.0" [] (by decide)
  refine ⟨h.all_counted.2.1, (h.any_order _ (List.reverse_perm _)).2, h.any_batches _ rfl,
    ⟨r, hr, ?_⟩, s, s', hs, hs', ?_⟩
  · rw [hduplicates, hids]
    rfl
  · have hlast : (fresh.withAll delivery).roster.isFound [.scalar 'c'] = false := by
      rw [Bool.eq_false_iff, Ne, isFound_withAll, hfresh, hids]
      decide
    rwa [countAll_open rfl, hids, if_pos ⟨by decide, hlast⟩] at hmore

end FourRecords

end Tally

end DeliveryAudit
