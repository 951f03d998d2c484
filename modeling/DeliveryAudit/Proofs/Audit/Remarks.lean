import DeliveryAudit.Proofs.Audit.Interruption
import DeliveryAudit.Proofs.Destination.Scope
/-!
# The remarks of an audit

An audit watches a traversal without touching it: apart from its remarks, it is
what counting the lines without a word comes to (`Audit.unwatched`). It remarks
on its progress once for every ten thousand lines that it has pulled, whether or
not the last of them holds a record, and at the end of a traversal on the total
and on what is missing (`Audit.watches_traversals`).
-/

namespace DeliveryAudit

namespace Audit

variable {enveloped : Bool} {es rest : List Event} {v : Value} {f : Record.Fault}
variable {s : Stretch} {roster : Roster} {records : List Record} {t : Tally} {n : Nat}

/-! ## Without remarks -/

/-- The events that counting the lines one after another lets happen: those up
to the first line without a record. -/
def pulled [Bounds] (enveloped : Bool) : List Event → List Event
  | [] => []
  | .line v :: es =>
    .line v :: if (Record.ofLine enveloped v).isOk then pulled enveloped es else []
  | e :: es => e :: pulled enveloped es

/-- **An audit that makes no remarks**: the records are counted as they are
taken from the lines, and a fault ends it. -/
def unwatched [Bounds] (enveloped : Bool) (s : Stretch) (roster : Roster) : Audit :=
  let counted := (Tally.start roster).countAll (s.lines.map (Record.ofLine enveloped))
  ⟨tallyOf counted.1 counted.2 s.fault, pulled enveloped s.events, faultOf counted.2 s.fault⟩

/-- The events that are no remarks. -/
def unremarked (es : List Event) : List Event := es.filter fun e => e.remark?.isNone

/-- What an audit is apart from its remarks. -/
def withoutRemarks (a : Audit) : Audit := { a with history := unremarked a.history }

theorem pulled_of_allHold [Bounds] (h : AllHold enveloped (es.filterMap Event.line?)) :
    pulled enveloped es = es := by
  induction es with
  | nil => rfl
  | cons e es ih =>
    cases e with
    | line v =>
      obtain ⟨⟨r, hr⟩, hrest⟩ := List.forall_mem_cons.1 h
      rw [pulled, hr, ih hrest]
      rfl
    | _ => exact congrArg (_ :: ·) (ih h)

/-- The first line without a record is the last event that is pulled. -/
theorem pulled_append_line [Bounds] (h : AllHold enveloped (es.filterMap Event.line?))
    (hv : Record.ofLine enveloped v = .error f) (rest : List Event) :
    pulled enveloped (es ++ .line v :: rest) = es ++ [.line v] := by
  induction es with
  | nil =>
    rw [List.nil_append, pulled, hv]
    rfl
  | cons e es ih =>
    cases e with
    | line u =>
      obtain ⟨⟨r, hr⟩, hrest⟩ := List.forall_mem_cons.1 h
      rw [List.cons_append, pulled, hr, ih hrest]
      rfl
    | _ => exact congrArg (_ :: ·) (ih h)

theorem isPrefix_pulled [Bounds] (enveloped : Bool) (es : List Event) :
    pulled enveloped es <+: es := by
  induction es with
  | nil => exact List.prefix_rfl
  | cons e es ih =>
    cases e with
    | line v =>
      rw [pulled, List.prefix_cons_inj]
      split
      · exact ih
      · exact List.nil_prefix
    | _ => exact (List.prefix_cons_inj _).2 ih

/-- **How many lines are pulled**: all of them, or those up to the first without
a record, with this one. -/
theorem countP_pulled [Bounds] (enveloped : Bool) (s : Stretch) :
    (AllHold enveloped s.lines →
      (pulled enveloped s.events).countP Event.isLine = s.lines.length) ∧
    ∀ before v after f, s.lines = before ++ v :: after → AllHold enveloped before →
      Record.ofLine enveloped v = .error f →
        (pulled enveloped s.events).countP Event.isLine = before.length + 1 := by
  constructor
  · intro hall
    rw [pulled_of_allHold hall, Event.countP_isLine]
    rfl
  · intro before v after f hlines hbefore hv
    -- Any roster will do, as what is pulled does not depend on it.
    obtain ⟨-, passed, ahead, hevents, rfl, -⟩ := brokenOff_of_line hlines hbefore hv .empty
    rw [hevents, pulled_append_line hbefore hv, List.countP_append, Event.countP_isLine]
    rfl

/-- An audit of records that comes to the end of a traversal. -/
theorem ofTraversal_of_records [Bounds] (hfault : s.fault = none)
    (h : s.lines.map (Record.ofLine enveloped) = records.map .ok) (roster : Roster) :
    ofTraversal enveloped s roster =
      ⟨((Tally.start roster).withAll records).close,
        told 0 s.events ++ closing ((Tally.start roster).withAll records).close, none⟩ := by
  rw [ofTraversal, follow_of_records h, hfault]
  simp only [List.reverse_reverse, Tally.withAll, Tally.start, Tally.close, Nat.zero_add]

/-- **The history of an audit**: what is pulled is told of, and the audit closes
it at the end of a traversal. -/
theorem history_ofTraversal [Bounds] (enveloped : Bool) (s : Stretch) (roster : Roster) :
    (ofTraversal enveloped s roster).history =
      told 0 (pulled enveloped s.events) ++
        if (ofTraversal enveloped s roster).fault.isNone then
          closing (ofTraversal enveloped s roster).tally
        else [] := by
  rcases allHold_or_exists_first enveloped s.lines with
    hall | ⟨before, v, after, f, hlines, hbefore, hv⟩
  · rw [pulled_of_allHold hall]
    cases hfault : s.fault with
    | some f =>
      obtain ⟨hended, hbroken⟩ := brokenOff_of_fault hfault hall roster
      rw [hended, hbroken.history]
      exact (List.append_nil _).symm
    | none =>
      obtain ⟨records, hrecords⟩ := hall.exists_records
      rw [ofTraversal_of_records hfault hrecords]
      rfl
  · obtain ⟨hended, passed, ahead, hevents, rfl, hbroken⟩ :=
      brokenOff_of_line hlines hbefore hv roster
    rw [hended, hbroken.history, hevents, pulled_append_line hbefore hv]
    exact (List.append_nil _).symm

/-! ## Remarks -/

/-- The remarks among events. -/
def remarks (es : List Event) : List Notice := es.filterMap Event.remark?

/-- The remark on so many lines. -/
def progressRemark (lines : Nat) : Notice :=
  ⟨.debug, .audit, "Processed " ++ toString lines ++ " lines"⟩

/-- **The remarks on the progress up to so many lines**: one for every ten
thousand of them. -/
def progressRemarks (lines : Nat) : List Notice :=
  (List.range (lines / 10000)).map fun k => progressRemark (10000 * (k + 1))

/-- The remark on the total. -/
def totalRemark (lines expected : Nat) : Notice :=
  ⟨.info, .audit, "Reconciled " ++ toString lines ++ " delivered lines against " ++
    toString expected ++ " expected records"⟩

/-- The remark on so many missing records, the first of which are these. -/
def missingRemark (missing : Nat) (first : List String) : Notice :=
  ⟨.debug, .audit, toString missing ++ " records never arrived, first ids: " ++
    ", ".intercalate first⟩

theorem remarks_append (es rest : List Event) :
    remarks (es ++ rest) = remarks es ++ remarks rest :=
  List.filterMap_append

/-- A line brings the remark that is due with it. -/
theorem progressRemarks_succ (n : Nat) :
    progressRemarks (n + 1) = progressRemarks n ++ remarks (progress (n + 1)) := by
  rw [progressRemarks, Nat.succ_div, progress]
  by_cases h : 10000 ∣ n + 1
  · have hmod : (n + 1) % stride = 0 := Nat.mod_eq_zero_of_dvd h
    have hdue : 10000 * (n / 10000 + 1) = n + 1 := by omega
    rw [if_pos h, if_pos hmod, List.range_succ, List.map_append, List.map_singleton, hdue]
    rfl
  · have hmod : ¬ (n + 1) % stride = 0 := fun hzero => h (Nat.dvd_of_mod_eq_zero hzero)
    rw [if_neg h, if_neg hmod, Nat.add_zero]
    exact (List.append_nil _).symm

/-- What is told of an event that is no line. -/
theorem told_cons_of_line?_eq_none {e : Event} (he : e.line? = none) (n : Nat)
    (es : List Event) : told n (e :: es) = e :: told n es := by
  cases e with
  | line v => cases he
  | _ => rfl

/-- **Telling of events** adds the remarks that are due with their lines. -/
theorem progressRemarks_told (hes : ∀ e ∈ es, e.remark? = none) (n : Nat) :
    progressRemarks n ++ remarks (told n es) = progressRemarks (n + es.countP Event.isLine) := by
  -- A line that is told of moves its remark to those before, for any number of lines before.
  induction es generalizing n with
  | nil => exact List.append_nil _
  | cons e es ih =>
    obtain ⟨he, hrest⟩ := List.forall_mem_cons.1 hes
    cases e with
    | line v =>
      have hcount : n + 1 + es.countP Event.isLine =
          n + (Event.line v :: es).countP Event.isLine := by
        rw [List.countP_cons_of_pos rfl]
        omega
      have htold : remarks (told n (.line v :: es)) =
          remarks (progress (n + 1)) ++ remarks (told (n + 1) es) :=
        remarks_append _ _
      rw [htold, ← List.append_assoc, ← progressRemarks_succ, ih hrest, hcount]
    | _ =>
      rw [List.countP_cons_of_neg Bool.false_ne_true, told_cons_of_line?_eq_none rfl, remarks,
        List.filterMap_cons_none he]
      exact ih hrest n

theorem remarks_told (hes : ∀ e ∈ es, e.remark? = none) :
    remarks (told 0 es) = progressRemarks (es.countP Event.isLine) := by
  have h := progressRemarks_told hes 0
  rw [Nat.zero_add] at h
  exact h

theorem unremarked_append (es rest : List Event) :
    unremarked (es ++ rest) = unremarked es ++ unremarked rest :=
  List.filter_append ..

theorem unremarked_cons {e : Event} (he : e.remark? = none) (es : List Event) :
    unremarked (e :: es) = e :: unremarked es := by
  have hkept : e.remark?.isNone = true := by
    rw [he]
    rfl
  simp only [unremarked, List.filter_cons, hkept, if_true]

theorem unremarked_progress (n : Nat) : unremarked (progress n) = [] := by
  unfold progress
  split
  · rfl
  · rfl

/-- **Telling of events** adds nothing but remarks. -/
theorem unremarked_told (hes : ∀ e ∈ es, e.remark? = none) (n : Nat) :
    unremarked (told n es) = es := by
  induction es generalizing n with
  | nil => rfl
  | cons e es ih =>
    obtain ⟨he, hrest⟩ := List.forall_mem_cons.1 hes
    cases e with
    | line v =>
      rw [told, unremarked_cons he, unremarked_append, unremarked_progress, List.nil_append,
        ih hrest]
    | _ => rw [told_cons_of_line?_eq_none rfl, unremarked_cons he, ih hrest]

/-- **At the end** an audit remarks on the total, and on what is missing. -/
theorem remarks_closing (t : Tally) :
    remarks (closing t) = totalRemark t.lines t.roster.size ::
      if t.roster.missing = [] then []
      else [missingRemark t.roster.missing.length
        ((t.roster.missing.take 10).map Text.shown)] := by
  unfold closing
  by_cases h : t.roster.missing = []
  · simp only [h, List.isEmpty_nil, if_true]
    rfl
  · have hsome : t.roster.missing.isEmpty = false := by simpa using h
    simp only [hsome, Bool.false_eq_true, if_false, h]
    rfl

theorem unremarked_closing (t : Tally) : unremarked (closing t) = [] := by
  unfold closing
  dsimp only
  split
  · rfl
  · rfl

/-! ## Watching -/

/-- **An audit that watches a traversal**, and what it remarks on. -/
structure Watches [Bounds] (enveloped : Bool) (s : Stretch) (roster : Roster) (a : Audit) :
    Prop where
  /-- It counts, lets happen and ends as without its remarks. -/
  same : a.withoutRemarks = unwatched enveloped s roster
  /-- As long as every line holds a record, all are pulled. -/
  pulledAll : AllHold enveloped s.lines → a.history.countP Event.isLine = s.lines.length
  /-- A first line without a record is pulled, and no other line after it. -/
  pulledUpTo : ∀ before v after f, s.lines = before ++ v :: after → AllHold enveloped before →
    Record.ofLine enveloped v = .error f → a.history.countP Event.isLine = before.length + 1
  /-- A remark on the progress comes right after the line with which it is
  due, and the remarks at the end come last. -/
  placed : a.history = told 0 (pulled enveloped s.events) ++
    if a.fault.isNone then closing a.tally else []
  /-- Before the end of the traversal, it remarks on its progress only. -/
  broken : a.fault ≠ none →
    remarks a.history = progressRemarks (a.history.countP Event.isLine)
  /-- At the end of the traversal, it remarks on the total, and if ids are
  missing, on how many they are and on the first ten. -/
  closed : a.fault = none →
    let missing := roster.ids.toList.filter fun id => !a.tally.roster.isFound id
    remarks a.history = progressRemarks (a.history.countP Event.isLine) ++
      totalRemark a.tally.lines roster.size ::
        if missing = [] then []
        else [missingRemark (roster.size - a.tally.roster.foundCount)
          ((missing.take (min 10 missing.length)).map Text.shown)]

/-- An audit flags ids, and changes none. -/
theorem ids_ofTraversal [Bounds] (enveloped : Bool) (s : Stretch) (roster : Roster) :
    (ofTraversal enveloped s roster).tally.roster.ids = roster.ids := by
  have hids : ∀ t f fault, (tallyOf t f fault).roster = t.roster := by
    intro t f fault
    cases f with
    | some f => rfl
    | none =>
      cases fault with
      | some fault => rfl
      | none => rfl
  rw [(ofTraversal_eq enveloped s roster).1, hids, count, Tally.countAll_eq]
  exact Roster.ids_foldl_mark _ _

/-- No line is a remark. -/
theorem countP_isLine_unremarked (es : List Event) :
    (unremarked es).countP Event.isLine = es.countP Event.isLine := by
  rw [unremarked, List.countP_filter]
  refine List.countP_congr fun e _ => ?_
  cases e with
  | line v => exact iff_of_true rfl rfl
  | _ => exact iff_of_false Bool.false_ne_true Bool.false_ne_true

/-- **An audit watches a traversal** that makes no remarks itself. -/
theorem watches_ofTraversal [Bounds] (hs : ∀ e ∈ s.events, e.remark? = none) (roster : Roster) :
    Watches enveloped s roster (ofTraversal enveloped s roster) := by
  obtain ⟨htally, hfault⟩ := ofTraversal_eq enveloped s roster
  have hhistory := history_ofTraversal enveloped s roster
  have hids := ids_ofTraversal enveloped s roster
  -- These four facts are all that is needed of the audit.
  generalize ofTraversal enveloped s roster = a at *
  have hpulled : ∀ e ∈ pulled enveloped s.events, e.remark? = none :=
    fun e he => hs e ((isPrefix_pulled enveloped s.events).subset he)
  have hunremarked : unremarked a.history = pulled enveloped s.events := by
    rw [hhistory, unremarked_append, unremarked_told hpulled]
    split
    · rw [unremarked_closing, List.append_nil]
    · exact List.append_nil _
  have hlines : a.history.countP Event.isLine =
      (pulled enveloped s.events).countP Event.isLine := by
    rw [← countP_isLine_unremarked, hunremarked]
  obtain ⟨hall, hupTo⟩ := countP_pulled enveloped s
  rw [← hlines] at hall hupTo
  refine ⟨?_, hall, hupTo, hhistory, fun hended => ?_, fun hended => ?_⟩
  · obtain ⟨tally, history, fault⟩ := a
    exact congr (congr (congrArg Audit.mk htally) hunremarked) hfault
  · have hnone : a.fault.isNone = false :=
      Option.isNone_eq_false_iff.2 (Option.isSome_iff_ne_none.2 hended)
    rw [hlines, hhistory, hnone, if_neg Bool.false_ne_true, List.append_nil, remarks_told hpulled]
  · intro missing
    have hsome : a.fault.isNone = true := Option.isNone_iff_eq_none.2 hended
    have hmissing : a.tally.roster.missing = missing := by rw [Roster.missing, hids]
    have hsize : a.tally.roster.size = roster.size := by rw [Roster.size, hids, Roster.size]
    have hcount : missing.length = roster.size - a.tally.roster.foundCount := by
      have hsum := a.tally.roster.foundCount_add_length_missing
      rw [hmissing, hsize] at hsum
      omega
    rw [hlines, hhistory, hsome, if_pos rfl, remarks_append, remarks_told hpulled,
      remarks_closing, hmissing, hsize, List.take_eq_take_min, hcount]

/-- **Audits watch traversals.** Whatever lines a traversal hands out, and
however it ends, an audit counts and ends as it would without its remarks, and
its remarks are those on its progress, one for every ten thousand lines pulled,
and at the end of the traversal those on the total and on the missing ids. No
traversal of a reader makes remarks itself. -/
theorem watches_traversals [Bounds] (enveloped : Bool) (roster : Roster) :
    (∀ s : Stretch, (∀ e ∈ s.events, e.remark? = none) →
      Watches enveloped s roster (ofTraversal enveloped s roster)) ∧
    ∀ r : Reader, Watches r.destination.enveloped r.traverse roster (run r roster) :=
  ⟨fun _ hs => watches_ofTraversal hs roster,
    fun r => watches_ofTraversal r.inScope_traverse.events roster⟩

end Audit

/-! ## Long deliveries

One breaks off at its twenty thousandth line, which holds no record. The other
comes to its end with ten thousand lines, all of one record out of two. -/

namespace Audit.LongDelivery

local instance : Bounds := .usual

open ShortLine

/-- The line that comes again and again. -/
def repeated (n : Nat) : List Event := List.replicate n (.line (line 'a'))

/-- The traversal whose twenty thousandth line is too short. -/
def breaking : Stretch :=
  ⟨repeated 19999 ++ .line short :: [.line (line 'b')], none, .start (.ofScripts [] [] [])⟩

/-- The traversal of one page with so many lines. -/
def ending (n : Nat) : Stretch := ⟨.page :: repeated n, none, .start (.ofScripts [] [] [])⟩

theorem remark?_of_mem_repeated {n : Nat} {e : Event} (he : e ∈ repeated n) :
    e.remark? = none := by
  rw [List.eq_of_mem_replicate he]
  rfl

theorem lines_repeated (n : Nat) :
    (repeated n).filterMap Event.line? = List.replicate n (line 'a') :=
  List.filterMap_replicate_of_some rfl

theorem allHold_replicate (n : Nat) : AllHold false (List.replicate n (line 'a')) := by
  intro v hv
  rw [List.eq_of_mem_replicate hv]
  exact ⟨_, rfl⟩

/-- However often the line comes, its record is found, and no other. -/
theorem ofTraversal_ending (hn : n ≠ 0) :
    (ofTraversal false (ending n) expected).fault = none ∧
      (ofTraversal false (ending n) expected).tally.lines = n ∧
      ∀ id, (ofTraversal false (ending n) expected).tally.roster.isFound id =
        decide (id = letter 'a') := by
  have hrecords : (ending n).lines.map (Record.ofLine false) =
      (List.replicate n (⟨letter 'a', []⟩ : Record)).map .ok := by
    have hlines : (ending n).lines = List.replicate n (line 'a') := lines_repeated n
    rw [hlines, List.map_replicate, List.map_replicate]
    rfl
  have hids : expected.ids.toList = [letter 'a', letter 'b'] := Roster.ids_ofIds _
  rw [ofTraversal_of_records rfl hrecords]
  refine ⟨rfl, (Nat.zero_add _).trans List.length_replicate, fun id => ?_⟩
  have hfound := Tally.isFound_withAll (Tally.start expected)
    (List.replicate n (⟨letter 'a', []⟩ : Record)) id
  rw [List.map_replicate, List.mem_replicate, and_iff_right hn] at hfound
  rw [Bool.eq_iff_iff, decide_eq_true_iff]
  refine hfound.trans ⟨?_, ?_⟩
  · rintro (hfresh | ⟨-, hid⟩)
    · have hnone : expected.isFound id = false := Roster.isFound_ofIds _ id
      exact absurd (hnone.symm.trans hfresh) Bool.false_ne_true
    · exact hid
  · rintro rfl
    refine .inr ⟨?_, rfl⟩
    rw [Tally.start, hids]
    exact List.mem_cons_self

/-- The line at which the first delivery breaks off is remarked on, and the
second delivery is told to miss the other record. -/
theorem watches_longDelivery :
    ((∀ e ∈ breaking.events, e.remark? = none) ∧
      remarks (ofTraversal false breaking expected).history =
        [⟨.debug, .audit, "Processed 10000 lines"⟩, ⟨.debug, .audit, "Processed 20000 lines"⟩]) ∧
    (∀ e ∈ (ending 10000).events, e.remark? = none) ∧
      remarks (ofTraversal false (ending 10000) expected).history =
        [⟨.debug, .audit, "Processed 10000 lines"⟩,
          ⟨.info, .audit, "Reconciled 10000 delivered lines against 2 expected records"⟩,
          ⟨.debug, .audit, "1 records never arrived, first ids: bbbbbbbb"⟩] := by
  have hbreaking : ∀ e ∈ breaking.events, e.remark? = none := by
    intro e he
    rcases List.mem_append.1 he with he | he
    · exact remark?_of_mem_repeated he
    · simp only [List.mem_cons, List.not_mem_nil, or_false] at he
      rcases he with rfl | rfl
      · rfl
      · rfl
  have hending : ∀ e ∈ (ending 10000).events, e.remark? = none :=
    List.forall_mem_cons.2 ⟨rfl, fun _ he => remark?_of_mem_repeated he⟩
  obtain ⟨hwatches, -⟩ := watches_traversals false expected
  have hfirst := hwatches breaking hbreaking
  have hsecond := hwatches (ending 10000) hending
  refine ⟨⟨hbreaking, ?_⟩, hending, ?_⟩
  · have hlines : breaking.lines = List.replicate 19999 (line 'a') ++ short :: [line 'b'] := by
      rw [Stretch.lines, breaking, List.filterMap_append, lines_repeated]
      rfl
    have hshort : Record.ofLine false short = .error tooShort := rfl
    have hended := (brokenOff_of_line hlines (allHold_replicate _) hshort expected).1
    have hfault : (ofTraversal false breaking expected).fault ≠ none := by
      rw [hended]
      exact Option.some_ne_none _
    have hcount := hfirst.pulledUpTo _ _ _ _ hlines (allHold_replicate _) hshort
    rw [hfirst.broken hfault, hcount, List.length_replicate]
    decide
  · have hlines : (ending 10000).lines = List.replicate 10000 (line 'a') := lines_repeated 10000
    have hcount := hsecond.pulledAll (by rw [hlines]; exact allHold_replicate _)
    rw [hlines, List.length_replicate] at hcount
    obtain ⟨hended, htotal, hfound⟩ := ofTraversal_ending (n := 10000) (by decide)
    have hids : expected.ids.toList = [letter 'a', letter 'b'] := Roster.ids_ofIds _
    have hsize : expected.size = 2 := congrArg List.length hids
    have hone : (ofTraversal false (ending 10000) expected).tally.roster.foundCount = 1 := by
      rw [Roster.foundCount, ids_ofTraversal, hids, funext hfound]
      decide
    rw [hsecond.closed hended, hcount, htotal, hsize, hone, hids, funext hfound]
    decide

end Audit.LongDelivery

end DeliveryAudit
