import DeliveryAudit.Proofs.Audit.Progress
import DeliveryAudit.Proofs.Tally.Accounting
/-!
# Streams that break off

A stream of lines is counted up to the first line without a record, and what
has been counted stays: the tally is that of the lines before, open to more of
them. One line more is on it if the fault shows only once the line counts, which
it does of no line of text. A sealed tally stays as it is, whatever comes. In an
audit nothing happens after such a line, and whether a line or the reader ends it
before its time, the lines before are on the roster and the tally is not sealed
(`Audit.prefix_committed`).
-/

namespace DeliveryAudit

namespace Audit

variable [Bounds] {enveloped : Bool} {before after lines more : List Value} {v : Value}
variable {f : Record.Fault} {t : Tally} {s : Stretch} {roster : Roster} {records : List Record}

/-- All these lines hold records. -/
def AllHold (enveloped : Bool) (lines : List Value) : Prop :=
  ∀ u ∈ lines, ∃ r, Record.ofLine enveloped u = .ok r

theorem AllHold.exists_records (h : AllHold enveloped lines) :
    ∃ records : List Record, lines.map (Record.ofLine enveloped) = records.map .ok := by
  induction lines with
  | nil => exact ⟨[], rfl⟩
  | cons u lines ih =>
    obtain ⟨r, hr⟩ := h u List.mem_cons_self
    obtain ⟨records, hrecords⟩ := ih fun u hu => h u (List.mem_cons_of_mem _ hu)
    exact ⟨r :: records, by rw [List.map_cons, hr, hrecords, List.map_cons]⟩

/-- Lines all hold records, or there is a first one that does not. -/
theorem allHold_or_exists_first (enveloped : Bool) (lines : List Value) :
    AllHold enveloped lines ∨ ∃ before v after f, lines = before ++ v :: after ∧
      AllHold enveloped before ∧ Record.ofLine enveloped v = .error f := by
  induction lines with
  | nil => exact .inl nofun
  | cons u lines ih =>
    cases hu : Record.ofLine enveloped u with
    | error f => exact .inr ⟨[], u, lines, f, rfl, nofun, hu⟩
    | ok r =>
      rcases ih with hall | ⟨before, v, after, f, rfl, hbefore, hv⟩
      · exact .inl (List.forall_mem_cons.2 ⟨⟨r, hu⟩, hall⟩)
      · exact .inr ⟨u :: before, v, after, f, rfl, List.forall_mem_cons.2 ⟨⟨r, hu⟩, hbefore⟩, hv⟩

/-! ## Tallies -/

/-- An open tally counts records before what follows them. -/
theorem count_append (hopen : t.isSealed = false)
    (h : lines.map (Record.ofLine enveloped) = records.map .ok) (more : List Value) :
    count enveloped (lines ++ more) t = count enveloped more (t.withAll records) := by
  obtain ⟨roster, n, closed⟩ := t
  cases hopen
  rw [count, List.map_append, h, Tally.countAll_records]
  rfl

theorem count_of_records (hopen : t.isSealed = false)
    (h : lines.map (Record.ofLine enveloped) = records.map .ok) :
    count enveloped lines t = (t.withAll records, none) := by
  rw [← List.append_nil lines, count_append hopen h]
  rfl

/-- **A sealed tally** stays as it is. An end is no fault, and a line without a
record is one before it comes too late, unless it would have to count first. -/
theorem count_of_isSealed (hsealed : t.isSealed = true) (lines : List Value) :
    count enveloped lines t =
      (t, lines.head?.map fun v =>
        match Record.ofLine enveloped v with
        | .error f => if f.isCounted then .late else .record f
        | .ok _ => .late) := by
  cases lines with
  | nil => rfl
  | cons v rest =>
    cases hv : Record.ofLine enveloped v with
    | error f =>
      simp only [count, List.map_cons, hv, Tally.countAll, Tally.fail_of_isSealed hsealed,
        List.head?_cons, Option.map_some]
    | ok r =>
      have hlate : t.count? r.id = none := by rw [Tally.count?_eq, if_pos hsealed]
      simp only [count, List.map_cons, hv, Tally.countAll, hlate, List.head?_cons, Option.map_some]

/-! ## Audits -/

/-- **An audit that ends before its time**, after these lines and events: the
lines are counted and on the roster, with so many lines more, and the tally is
not sealed. -/
structure BrokenOff (enveloped : Bool) (roster : Roster) (before : List Value) (more : Nat)
    (events : List Event) (a : Audit) : Prop where
  tally : count enveloped before (Tally.start roster) =
    (⟨a.tally.roster, before.length, false⟩, none)
  lines : a.tally.lines = before.length + more
  isSealed : a.tally.isSealed = false
  ids : a.tally.roster.ids = roster.ids
  found : ∀ id, a.tally.roster.isFound id = true ↔ roster.isFound id = true ∨
    id ∈ roster.ids.toList ∧ ∃ u ∈ before, ∃ r, Record.ofLine enveloped u = .ok r ∧ r.id = id
  history : a.history = told 0 events

/-- The ids of lines that hold records. -/
theorem mem_ids_iff (h : lines.map (Record.ofLine enveloped) = records.map .ok) (id : Text) :
    id ∈ records.map Record.id ↔
      ∃ u ∈ lines, ∃ r, Record.ofLine enveloped u = .ok r ∧ r.id = id := by
  have hmem : ∀ r, r ∈ records ↔ ∃ u ∈ lines, Record.ofLine enveloped u = .ok r := fun r => by
    rw [← List.mem_map, h, List.mem_map]
    exact ⟨fun hr => ⟨r, hr, rfl⟩, fun ⟨r', hr', he⟩ => Except.ok.inj he ▸ hr'⟩
  simp only [List.mem_map, hmem]
  exact ⟨fun ⟨r, ⟨u, hu, hr⟩, hid⟩ => ⟨u, hu, r, hr, hid⟩,
    fun ⟨u, hu, r, hr, hid⟩ => ⟨r, ⟨u, hu, hr⟩, hid⟩⟩

/-- As many lines as records. -/
theorem length_of_records (h : lines.map (Record.ofLine enveloped) = records.map .ok) :
    lines.length = records.length := by
  have hlength := congrArg List.length h
  rwa [List.length_map, List.length_map] at hlength

theorem brokenOff_of_records {events : List Event} {fault : Option AuditFault}
    (h : before.map (Record.ofLine enveloped) = records.map .ok) (more : Nat) :
    BrokenOff enveloped roster before more events
      ⟨⟨((Tally.start roster).withAll records).roster, records.length + more, false⟩,
        told 0 events, fault⟩ where
  tally := by
    rw [count_of_records rfl h, length_of_records h]
    simp only [Tally.withAll, Tally.start, Nat.zero_add]
  lines := by rw [length_of_records h]
  isSealed := rfl
  ids := Tally.ids_withAll _ _
  found id := by
    rw [Tally.isFound_withAll, mem_ids_iff h]
    rfl
  history := rfl

/-- **A line without a record ends an audit**, and nothing happens after it. -/
theorem brokenOff_of_line (hlines : s.lines = before ++ v :: after)
    (hbefore : AllHold enveloped before) (hv : Record.ofLine enveloped v = .error f)
    (roster : Roster) :
    (ofTraversal enveloped s roster).fault = some (.tally (.record f)) ∧
      ∃ passed ahead, s.events = passed ++ .line v :: ahead ∧
        passed.filterMap Event.line? = before ∧
        BrokenOff enveloped roster before f.isCounted.toNat (passed ++ [.line v])
          (ofTraversal enveloped s roster) := by
  obtain ⟨records, hrecords⟩ := hbefore.exists_records
  obtain ⟨es, es', hevents, rfl, hrest⟩ := List.filterMap_eq_append_iff.1 hlines
  obtain ⟨others, e, ahead, rfl, hothers, he, -⟩ := List.filterMap_eq_cons_iff.1 hrest
  obtain rfl : e = .line v := by
    cases e with
    | line u => exact congrArg Event.line (Option.some.inj he)
    | _ => cases he
  have hpassed : (es ++ others).filterMap Event.line? = es.filterMap Event.line? := by
    rw [List.filterMap_append, List.filterMap_eq_nil_iff.2 hothers, List.append_nil]
  rw [← List.append_assoc] at hevents
  have haudit : ofTraversal enveloped s roster =
      ⟨⟨((Tally.start roster).withAll records).roster, records.length + f.isCounted.toNat, false⟩,
        told 0 (es ++ others ++ [.line v]), some (.tally (.record f))⟩ := by
    rw [ofTraversal, hevents, follow_of_line (by rw [hpassed]; exact hrecords) hv]
    simp only [List.reverse_reverse, Tally.withAll, Tally.start]
  rw [haudit]
  exact ⟨rfl, es ++ others, ahead, hevents, hpassed, brokenOff_of_records hrecords _⟩

/-- **A fault of the reader ends an audit** after all its lines. -/
theorem brokenOff_of_fault {f : TraversalFault} (hfault : s.fault = some f)
    (hlines : AllHold enveloped s.lines) (roster : Roster) :
    (ofTraversal enveloped s roster).fault = some (.traversal f) ∧
      BrokenOff enveloped roster s.lines 0 s.events (ofTraversal enveloped s roster) := by
  obtain ⟨records, hrecords⟩ := hlines.exists_records
  have haudit : ofTraversal enveloped s roster =
      ⟨⟨((Tally.start roster).withAll records).roster, records.length + 0, false⟩,
        told 0 s.events, some (.traversal f)⟩ := by
    rw [ofTraversal, follow_of_records hrecords, hfault]
    simp only [List.reverse_reverse, Tally.withAll, Tally.start, Nat.add_zero]
  rw [haudit]
  exact ⟨rfl, brokenOff_of_records hrecords 0⟩

/-- **An audit is sealed** at the end of a traversal whose lines all hold
records, and at no other end. -/
theorem isSealed_iff (s : Stretch) (roster : Roster) :
    (ofTraversal enveloped s roster).tally.isSealed = true ↔
      s.fault = none ∧ AllHold enveloped s.lines := by
  rcases allHold_or_exists_first enveloped s.lines with
    hall | ⟨before, v, after, f, hlines, hbefore, hv⟩
  · cases hfault : s.fault with
    | some f =>
      rw [(brokenOff_of_fault hfault hall roster).2.isSealed]
      exact iff_of_false Bool.false_ne_true nofun
    | none =>
      obtain ⟨records, hrecords⟩ := hall.exists_records
      refine iff_of_true ?_ ⟨rfl, hall⟩
      simp only [ofTraversal, follow_of_records hrecords, hfault, Tally.close]
  · obtain ⟨-, passed, ahead, -, -, hbroken⟩ := brokenOff_of_line hlines hbefore hv roster
    rw [hbroken.isSealed]
    refine iff_of_false Bool.false_ne_true fun h => ?_
    obtain ⟨r, hr⟩ := h.2 v (by rw [hlines]; exact List.mem_append_right _ List.mem_cons_self)
    rw [hr] at hv
    cases hv

/-- **What a stream that breaks off has committed.** A line of text without a
record does not count. On an open tally, the first line without a record is the
fault, whatever lines follow; the tally is that of the lines before alone, unless
the line counts first, and goes on from there with any others. A sealed tally
stays as it is: the end of the lines is no fault, a first line without a record
is the fault, unless it would count first, and any other first line comes too
late. An audit that a line or the reader ends before its time is broken off after
the lines before, without being sealed, and every other audit is sealed. -/
theorem prefix_committed (enveloped : Bool) :
    (∀ x f, Record.ofLine enveloped (.text x) = .error f → f.isCounted = false) ∧
    (∀ t before v after f, t.isSealed = false → AllHold enveloped before →
      Record.ofLine enveloped v = .error f →
      ∃ t', count enveloped before t = (t', none) ∧
        count enveloped (before ++ v :: after) t =
          (if f.isCounted then ⟨t'.roster, t'.lines + 1, false⟩ else t', some (.record f)) ∧
        t'.lines = t.lines + before.length ∧ t'.isSealed = false ∧
        ∀ more, count enveloped more t' = count enveloped (before ++ more) t) ∧
    (∀ t : Tally, t.isSealed = true →
      (∀ lines, (count enveloped lines t).1 = t) ∧ (count enveloped [] t).2 = none ∧
      (∀ v rest f, Record.ofLine enveloped v = .error f →
        (count enveloped (v :: rest) t).2 = some (if f.isCounted then .late else .record f)) ∧
      ∀ v rest r, Record.ofLine enveloped v = .ok r →
        (count enveloped (v :: rest) t).2 = some .late) ∧
    ∀ s roster,
      (∀ before v after f, s.lines = before ++ v :: after → AllHold enveloped before →
        Record.ofLine enveloped v = .error f →
        (ofTraversal enveloped s roster).fault = some (.tally (.record f)) ∧
        ∃ passed ahead, s.events = passed ++ .line v :: ahead ∧
          passed.filterMap Event.line? = before ∧
          BrokenOff enveloped roster before f.isCounted.toNat (passed ++ [.line v])
            (ofTraversal enveloped s roster)) ∧
      (∀ f, s.fault = some f → AllHold enveloped s.lines →
        (ofTraversal enveloped s roster).fault = some (.traversal f) ∧
        BrokenOff enveloped roster s.lines 0 s.events (ofTraversal enveloped s roster)) ∧
      ((ofTraversal enveloped s roster).tally.isSealed = true ↔
        s.fault = none ∧ AllHold enveloped s.lines) := by
  refine ⟨fun x f => Record.isCounted_of_text, ?_,
    fun t hsealed => ⟨fun lines => ?_, rfl, ?_, ?_⟩, fun s roster => ⟨?_, ?_, ?_⟩⟩
  · intro t before v after f hopen hbefore hv
    obtain ⟨records, hrecords⟩ := hbefore.exists_records
    obtain ⟨roster, n, closed⟩ := t
    cases hopen
    refine ⟨_, count_of_records rfl hrecords, ?_, ?_, rfl, fun more => ?_⟩
    · rw [count_append rfl hrecords, count, List.map_cons, hv, Tally.countAll,
        Tally.fail_of_open rfl]
      cases f.isCounted with
      | true => rfl
      | false => rfl
    · rw [length_of_records hrecords]
      rfl
    · rw [count_append rfl hrecords]
  · rw [count_of_isSealed hsealed]
  · intro v rest f hv
    rw [count_of_isSealed hsealed, List.head?_cons, Option.map_some, hv]
  · intro v rest r hv
    rw [count_of_isSealed hsealed, List.head?_cons, Option.map_some, hv]
  · exact fun before v after f hlines hbefore hv => brokenOff_of_line hlines hbefore hv roster
  · exact fun f hfault hlines => brokenOff_of_fault hfault hlines roster
  · exact isSealed_iff s roster

end Audit

/-! ## A line that is too short

It comes between two lines that hold records, and another reader breaks off
after the first of them. A list in place of the line counts, but has no id that
can be looked up. -/

namespace Audit.ShortLine

local instance : Bounds := .usual

/-- The id of a letter. -/
def letter (c : Char) : Text := List.replicate Record.idLength (.scalar c)

/-- A bare line of the id of a letter. -/
def line (c : Char) : Value := .text (letter c)

/-- A bare line that is too short. -/
def short : Value := .text [.scalar 'a']

/-- What is wrong with it. -/
def tooShort : Record.Fault := .malformed (.short short)

/-- A list that is long enough. -/
def listed : Value := .list (List.replicate Record.idLength .null)

/-- The roster of two records. -/
def expected : Roster := .ofIds [letter 'a', letter 'b']

/-- A traversal that comes to its end, with a page between the lines. -/
def whole : Stretch :=
  ⟨[.page, .line (line 'a'), .page, .line short, .line (line 'b')], none,
    .start (.ofScripts [] [] [])⟩

/-- A traversal that ends before its time. -/
def cut : Stretch :=
  ⟨[.page, .line (line 'a'), .page], some .unsettled, .start (.ofScripts [] [] [])⟩

/-- The first line is committed, however the audit ends before the second. -/
theorem prefix_committed_short :
    (AllHold false [line 'a'] ∧ Record.ofLine false short = .error tooShort) ∧
    (∃ t, count false [line 'a'] (.start expected) = (t, none) ∧
      count false [line 'a', short, line 'b'] (.start expected) = (t, some (.record tooShort)) ∧
      count false [line 'a', listed] (.start expected) =
        (⟨t.roster, 2, false⟩, some (.record .listId)) ∧
      t.lines = 1 ∧
      count false [line 'b'] t = count false [line 'a', line 'b'] (.start expected)) ∧
    ((count false [short] (Tally.start expected).close).2 = some (.record tooShort) ∧
      (count false [listed] (Tally.start expected).close).2 = some .late ∧
      (count false [line 'a', short] (Tally.start expected).close).2 = some .late) ∧
    ((ofTraversal false whole expected).fault = some (.tally (.record tooShort)) ∧
      (ofTraversal false whole expected).tally.lines = 1 ∧
      (ofTraversal false whole expected).tally.roster.isFound (letter 'a') = true ∧
      (ofTraversal false whole expected).tally.roster.isFound (letter 'b') = false) ∧
    (ofTraversal false cut expected).fault = some (.traversal .unsettled) ∧
      (ofTraversal false cut expected).tally.lines = 1 ∧
      (ofTraversal false cut expected).tally.isSealed = false := by
  have hline : Record.ofLine false (line 'a') = .ok ⟨letter 'a', []⟩ := rfl
  have hall : AllHold false [line 'a'] := List.forall_mem_cons.2 ⟨⟨_, hline⟩, nofun⟩
  have hshort : Record.ofLine false short = .error tooShort := rfl
  have hlisted : Record.ofLine false listed = .error .listId := rfl
  obtain ⟨-, hopen, hsealed, haudit⟩ := prefix_committed false
  obtain ⟨t, ht, hstopped, hlines, -, hmore⟩ :=
    hopen (.start expected) [line 'a'] short [line 'b'] tooShort rfl hall hshort
  obtain ⟨t', ht', hcounted, -⟩ :=
    hopen (.start expected) [line 'a'] listed [] .listId rfl hall hlisted
  obtain rfl : t = t' := congrArg Prod.fst (ht.symm.trans ht')
  have hone : t.lines = 1 := hlines
  obtain ⟨-, -, hfirst, hlate⟩ := hsealed (Tally.start expected).close rfl
  obtain ⟨hfault, passed, ahead, -, -, hbroken⟩ :=
    (haudit whole expected).1 [line 'a'] short [line 'b'] tooShort rfl hall hshort
  obtain ⟨hcut, hcutOff⟩ := (haudit cut expected).2.1 .unsettled rfl hall
  have hids : expected.ids.toList = [letter 'a', letter 'b'] := Roster.ids_ofIds _
  have hfresh : ∀ id, expected.isFound id = false := Roster.isFound_ofIds _
  refine ⟨⟨hall, hshort⟩, ⟨t, ht, hstopped, ?_, hone, hmore _⟩,
    ⟨hfirst _ _ _ hshort, hfirst _ _ _ hlisted, hlate _ _ _ hline⟩,
    ⟨hfault, hbroken.lines, ?_, ?_⟩, hcut, hcutOff.lines, hcutOff.isSealed⟩
  · rw [hone] at hcounted
    exact hcounted
  · refine (hbroken.found _).2 (.inr ⟨?_, line 'a', List.mem_singleton_self _, _, hline, rfl⟩)
    rw [hids]
    exact List.mem_cons_self
  · rw [Bool.eq_false_iff, Ne, hbroken.found, hfresh]
    rintro (h | ⟨-, u, hu, r, hr, hid⟩)
    · cases h
    · obtain rfl := List.mem_singleton.1 hu
      obtain rfl := Except.ok.inj (hline.symm.trans hr)
      exact absurd hid (by decide)

end Audit.ShortLine

end DeliveryAudit
