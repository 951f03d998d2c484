import DeliveryAudit.Destination.Session
import DeliveryAudit.Proofs.Destination.Cursor
/-!
# Handles on a traversal

A session goes through steps in any order: a handle is obtained, or lines
are pulled through one. The handle that is pulled first owns the
traversal, and what has happened is always the start of the whole
traversal; this is what `Serves` says of a session. One pull keeps it
(`Owned.pullThrough`, by cases on who owns), one step does
(`Serves.perform`), and so all steps do, by induction on their number
(`Serves.performAll`). What a step brings is `Brings`: every handle but
the owner learns once that it comes too late, and has then ended
(`one_traversal`).
-/

namespace DeliveryAudit

theorem Event.isLine_eq (e : Event) : e.isLine = e.line?.isSome := by
  cases e with
  | _ => rfl

namespace Session

/-! ## Advancing -/

/-- **Advancing** takes a first part of the events, with as many lines as
are asked for, or else all events. -/
theorem advance_eq (n : Nat) (events seen : List Event) :
    ∃ fs left, events = fs ++ left ∧
      advance seen n events =
        (fs.reverse ++ seen, left, n - (fs.filterMap Event.line?).length) ∧
      fs.filterMap Event.line? = (events.filterMap Event.line?).take n ∧
      ((fs.filterMap Event.line?).length < n → left = []) := by
  induction events generalizing n seen with
  | nil =>
    cases n with
    | zero => exact ⟨[], [], rfl, rfl, rfl, fun _ => rfl⟩
    | succ n => exact ⟨[], [], rfl, rfl, rfl, fun _ => rfl⟩
  | cons e events ih =>
    cases n with
    | zero => exact ⟨[], e :: events, rfl, rfl, rfl, fun h => absurd h (Nat.not_lt_zero _)⟩
    | succ n =>
      rw [advance, Event.isLine_eq]
      cases hline : e.line? with
      | some v =>
        obtain ⟨fs, left, heq, hadvance, hlines, hleft⟩ := ih n (e :: seen)
        refine ⟨e :: fs, left, by rw [heq, List.cons_append], ?_, ?_, fun h => hleft ?_⟩
        · rw [if_pos Option.isSome_some, hadvance, List.reverse_cons, List.append_assoc,
            List.filterMap_cons_some hline, List.length_cons, Nat.add_sub_add_right]
          rfl
        · rw [List.filterMap_cons_some hline, List.filterMap_cons_some hline, List.take_succ_cons,
            hlines]
        · rw [List.filterMap_cons_some hline] at h
          exact Nat.lt_of_succ_lt_succ h
      | none =>
        obtain ⟨fs, left, heq, hadvance, hlines, hleft⟩ := ih (n + 1) (e :: seen)
        refine ⟨e :: fs, left, by rw [heq, List.cons_append], ?_, ?_, fun h => hleft ?_⟩
        · rw [if_neg (by simp), hadvance, List.reverse_cons, List.append_assoc,
            List.filterMap_cons_none hline]
          rfl
        · rw [List.filterMap_cons_none hline, List.filterMap_cons_none hline, hlines]
        · rwa [List.filterMap_cons_none hline] at h

/-- **A pull of the owner** brings as many of the lines ahead as are asked
for. Where there are fewer, all that is ahead has happened, and the fault
at its end comes once. -/
theorem pullOwned_eq (s : Session) (n : Nat) :
    (s.pullOwned n).1.lines = (s.ahead.filterMap Event.line?).take n ∧
      (s.pullOwned n).2.history ++ (s.pullOwned n).2.ahead = s.history ++ s.ahead ∧
      (s.pullOwned n).2.history.filterMap Event.line? =
        s.history.filterMap Event.line? ++ (s.pullOwned n).1.lines ∧
      (s.pullOwned n).2.reader = s.reader ∧ (s.pullOwned n).2.owner = s.owner ∧
      (s.pullOwned n).2.ended = s.ended ∧
      ((s.pullOwned n).1.fault = none ∧ (s.pullOwned n).2.fault = s.fault ∧
          (s.ahead = [] → (s.pullOwned n).2.ahead = []) ∨
        (s.pullOwned n).1.fault = s.fault ∧ (s.pullOwned n).2.fault = none ∧
          (s.pullOwned n).2.ahead = []) := by
  obtain ⟨fs, left, heq, hadvance, hlines, hleft⟩ := advance_eq n s.ahead []
  rw [List.append_nil] at hadvance
  have hevents : (fs.reverse ++ s.passed).reverse ++ left = s.history ++ s.ahead := by
    rw [history, List.reverse_append, List.reverse_reverse, heq, List.append_assoc]
  have hseen : (fs.reverse ++ s.passed).reverse.filterMap Event.line? =
      s.history.filterMap Event.line? ++ fs.filterMap Event.line? := by
    rw [history, List.reverse_append, List.reverse_reverse, List.filterMap_append]
  have hnil : s.ahead = [] → left = [] := fun h => (List.append_eq_nil_iff.1 (heq ▸ h)).2
  unfold pullOwned
  simp only [hadvance, List.reverse_reverse]
  split
  · exact ⟨hlines, hevents, hseen, rfl, rfl, rfl, .inl ⟨rfl, rfl, hnil⟩⟩
  · rename_i hlacking
    have hleft : left = [] := hleft (by simp at hlacking; omega)
    split
    · rename_i f hfault
      exact ⟨hlines, hevents, hseen, rfl, rfl, rfl, .inr ⟨hfault.symm, rfl, hleft⟩⟩
    · exact ⟨hlines, hevents, hseen, rfl, rfl, rfl, .inl ⟨rfl, rfl, hnil⟩⟩

theorem head?_append_singleton (pulls : List Nat) (h : Nat) :
    (pulls ++ [h]).head? = some (pulls.headD h) := by
  cases pulls with
  | nil => rfl
  | cons first pulls => rfl

/-- Handles that have ended, when one more is pulled. -/
theorem ended_append_singleton {ended : List Nat}
    (hended : ∀ x, ended.contains x = true ↔ x ∈ pulls ∧ pulls.head? ≠ some x)
    (x : Nat) :
    (if pulls.headD h = h ∨ h ∈ pulls then ended else h :: ended).contains x = true ↔
      x ∈ pulls ++ [h] ∧ (pulls ++ [h]).head? ≠ some x := by
  have hx := hended x
  rw [List.contains_iff_mem] at hx ⊢
  rw [head?_append_singleton]
  cases pulls with
  | nil =>
    rw [List.headD_nil, if_pos (.inl rfl), hx]
    constructor
    · exact fun hm => absurd hm.1 List.not_mem_nil
    · rintro ⟨hm, hne⟩
      exact absurd (congrArg some (List.mem_singleton.1 hm).symm) hne
  | cons first pulls =>
    rw [List.headD_cons, List.mem_append, List.mem_singleton]
    rw [List.head?_cons] at hx
    by_cases hold : first = h ∨ h ∈ first :: pulls
    · have hmem : h ∈ first :: pulls := hold.elim (fun he => he ▸ List.mem_cons_self) id
      rw [if_pos hold, hx]
      exact and_congr_left fun _ => ⟨.inl, fun hm => hm.elim id fun he => he ▸ hmem⟩
    · rw [if_neg hold, List.mem_cons, hx]
      constructor
      · rintro (rfl | hm)
        · exact ⟨.inr rfl, fun he => hold (.inl (Option.some.inj he))⟩
        · exact ⟨.inl hm.1, hm.2⟩
      · rintro ⟨hm | rfl, hne⟩
        · exact .inr ⟨hm, hne⟩
        · exact .inl rfl

/-! ## Steps -/

/-- A step of a session. -/
inductive Step where
  /-- A handle is obtained. -/
  | obtain
  /-- So many lines are pulled through a handle. -/
  | pull (handle n : Nat)
  /-- All lines are pulled through a handle. -/
  | drain (handle : Nat)

/-- The handle through which a step pulls, if it pulls any line. -/
def Step.handle? : Step → Option Nat
  | obtain => none
  | pull handle n => if n = 0 then none else some handle
  | drain handle => some handle

/-- Of the lines to come, those that a step asks for. -/
def Step.asked (vs : List Value) : Step → List Value
  | obtain => []
  | pull _ n => vs.take n
  | drain _ => vs

variable [Bounds]

/-- What a step brings, and the session after it. -/
def perform (s : Session) : Step → Pulled × Session
  | .obtain => (⟨[], false, none⟩, s.obtain.2)
  | .pull handle n => s.pull handle n
  | .drain handle => s.drain handle

/-- What steps bring, one after another, and the session after them. -/
def performAll (s : Session) : List Step → List Pulled × Session
  | [] => ([], s)
  | step :: steps =>
    let now := s.perform step
    let later := performAll now.2 steps
    (now.1 :: later.1, later.2)

/-- **A session that serves a reader**, after pulls through these handles
that have handed out these lines. -/
structure Serves (r : Reader) (pulls : List Nat) (handed : List Value) (s : Session) : Prop where
  reader : s.reader = r
  /-- The handle that was pulled first is the owner. -/
  owner : s.owner = pulls.head?
  /-- Every other handle that was pulled has ended. -/
  ended : ∀ h, s.ended.contains h = true ↔ h ∈ pulls ∧ pulls.head? ≠ some h
  handed : s.history.filterMap Event.line? = handed
  idle : pulls = [] → s.history = []
  /-- What has happened and what is ahead make the whole traversal. -/
  events : pulls ≠ [] → s.history ++ s.ahead = r.traverse.events
  fault : pulls ≠ [] → s.fault = r.traverse.fault ∨ s.fault = none ∧ s.ahead = []

variable {r : Reader} {pulls : List Nat} {handed : List Value} {s : Session} {h n : Nat}

theorem serves_start (r : Reader) : Serves r [] [] (start r) where
  reader := rfl
  owner := rfl
  ended h := by simp [start]
  handed := rfl
  idle _ := rfl
  events h := absurd rfl h
  fault h := absurd rfl h

/-- What has happened is the start of the whole traversal. -/
theorem Serves.history_prefix (hs : Serves r pulls handed s) :
    s.history <+: r.traverse.events := by
  by_cases hpulls : pulls = []
  · rw [hs.idle hpulls]
    exact List.nil_prefix
  · rw [← hs.events hpulls]
    exact List.prefix_append _ _

/-- A handle that is given out changes nothing. -/
theorem Serves.obtain (hs : Serves r pulls handed s) : Serves r pulls handed s.obtain.2 where
  reader := hs.reader
  owner := hs.owner
  ended := hs.ended
  handed := hs.handed
  idle := hs.idle
  events := hs.events
  fault := hs.fault

/-- A session with a first handle to be pulled through, whoever owns it. -/
structure Owned (r : Reader) (pulls : List Nat) (h : Nat) (handed : List Value) (s : Session) :
    Prop where
  reader : s.reader = r
  owner : s.owner = some (pulls.headD h)
  ended : ∀ h, s.ended.contains h = true ↔ h ∈ pulls ∧ pulls.head? ≠ some h
  handed : s.history.filterMap Event.line? = handed
  events : s.history ++ s.ahead = r.traverse.events
  fault : s.fault = r.traverse.fault ∨ s.fault = none ∧ s.ahead = []

/-- The lines ahead are those that have not been handed out. -/
theorem Owned.lines_ahead (ho : Owned r pulls h handed s) :
    s.ahead.filterMap Event.line? = r.traverse.lines.drop handed.length := by
  rw [Stretch.lines, ← ho.events, List.filterMap_append, ho.handed, List.drop_left]

/-- **The first pull starts the traversal.** It has not happened yet. -/
theorem Serves.own (hs : Serves r pulls handed s) (h : Nat) :
    Owned r pulls h handed (s.own h) ∧ (s.own h).history = s.history := by
  unfold Session.own
  cases pulls with
  | nil =>
    have howner : s.owner = none := hs.owner
    rw [howner]
    refine ⟨⟨hs.reader, rfl, hs.ended, hs.handed, ?_, .inl (by rw [hs.reader])⟩, rfl⟩
    change s.history ++ s.reader.traverse.events = _
    rw [hs.idle rfl, hs.reader]
    rfl
  | cons first pulls =>
    have howner : s.owner = some first := hs.owner
    rw [howner]
    have hne : first :: pulls ≠ [] := List.cons_ne_nil _ _
    exact ⟨⟨hs.reader, howner, hs.ended, hs.handed, hs.events hne, hs.fault hne⟩, rfl⟩

/-- **What a step brings** of the lines that it asks for, by the handles
that have been pulled before it. -/
structure Brings (r : Reader) (pulls : List Nat) (handle? : Option Nat) (asked : List Value)
    (s s' : Session) (p : Pulled) : Prop where
  /-- A step that pulls nothing does nothing. -/
  idle : handle? = none → s'.history = s.history ∧ p = ⟨[], false, none⟩
  /-- The handle that is pulled first gets its lines, and the fault of the
  traversal at its end. -/
  own : ∀ h, handle? = some h → pulls.headD h = h → p.lines = asked ∧
    (p.fault = none ∨ p.fault = r.traverse.fault ∧ s'.history = r.traverse.events)
  /-- Any other handle gets nothing: on its first pull, it learns that it
  comes too late, and then it has ended. -/
  late : ∀ h, handle? = some h → pulls.headD h ≠ h → s'.history = s.history ∧
    p = if h ∈ pulls then ⟨[], true, none⟩
      else ⟨[], false, some (.again r.destination.readerName)⟩

theorem brings_own {asked : List Value} {s s' : Session} {p : Pulled} (howner : pulls.headD h = h)
    (hlines : p.lines = asked)
    (hfault : p.fault = none ∨ p.fault = r.traverse.fault ∧ s'.history = r.traverse.events) :
    Brings r pulls (some h) asked s s' p where
  idle hnone := by cases hnone
  own _ hsome _ := by cases hsome; exact ⟨hlines, hfault⟩
  late _ hsome hlate := by cases hsome; exact absurd howner hlate

theorem brings_late {asked : List Value} {s s' : Session} {p : Pulled} (hlate : pulls.headD h ≠ h)
    (hhistory : s'.history = s.history)
    (hp : p = if h ∈ pulls then ⟨[], true, none⟩
      else ⟨[], false, some (.again r.destination.readerName)⟩) :
    Brings r pulls (some h) asked s s' p where
  idle hnone := by cases hnone
  own _ hsome howner := by cases hsome; exact absurd howner hlate
  late _ hsome _ := by cases hsome; exact ⟨hhistory, hp⟩

theorem Brings.of_history_eq {handle? : Option Nat} {asked : List Value} {t s' : Session}
    {p : Pulled} (hb : Brings r pulls handle? asked t s' p) (ht : t.history = s.history) :
    Brings r pulls handle? asked s s' p where
  idle := ht ▸ hb.idle
  own := hb.own
  late := ht ▸ hb.late

/-- **The owner's pull.** -/
theorem Owned.pullOwned (ho : Owned r pulls h handed s) (howner : pulls.headD h = h) (n : Nat) :
    Serves r (pulls ++ [h]) (handed ++ (s.pullOwned n).1.lines) (s.pullOwned n).2 ∧
      Brings r pulls (some h) ((s.ahead.filterMap Event.line?).take n) s (s.pullOwned n).2
        (s.pullOwned n).1 := by
  have hne : pulls ++ [h] ≠ [] := List.append_ne_nil_of_right_ne_nil _ (List.cons_ne_nil _ _)
  have hended := ended_append_singleton (h := h) ho.ended
  rw [if_pos (.inl howner)] at hended
  obtain ⟨hlines, hevents, hhanded, hreader, howner', hended', hfault⟩ := pullOwned_eq s n
  have hall := hevents.trans ho.events
  have hcases : ((s.pullOwned n).2.fault = r.traverse.fault ∨
        (s.pullOwned n).2.fault = none ∧ (s.pullOwned n).2.ahead = []) ∧
      ((s.pullOwned n).1.fault = none ∨ (s.pullOwned n).1.fault = r.traverse.fault ∧
        (s.pullOwned n).2.history = r.traverse.events) := by
    rcases hfault with ⟨hbrought, hkept, hnil⟩ | ⟨hbrought, hgone, hnil⟩
    · rw [hkept]
      exact ⟨ho.fault.imp id fun h => ⟨h.1, hnil h.2⟩, .inl hbrought⟩
    · rw [hnil, List.append_nil] at hall
      rw [hbrought]
      exact ⟨.inr ⟨hgone, hnil⟩, ho.fault.symm.imp And.left fun h => ⟨h, hall⟩⟩
  exact ⟨{
    reader := hreader.trans ho.reader
    owner := by rw [howner', ho.owner, head?_append_singleton]
    ended := by rw [hended']; exact hended
    handed := by rw [hhanded, ho.handed]
    idle := fun h => absurd h hne
    events := fun _ => hall
    fault := fun _ => hcases.1 }, brings_own howner hlines hcases.2⟩

/-- **One pull**, by cases on who owns the traversal. -/
theorem Owned.pullThrough (ho : Owned r pulls h handed s) (n : Nat) :
    Serves r (pulls ++ [h]) (handed ++ (s.pullThrough h n).1.lines) (s.pullThrough h n).2 ∧
      Brings r pulls (some h) ((s.ahead.filterMap Event.line?).take n) s (s.pullThrough h n).2
        (s.pullThrough h n).1 := by
  unfold Session.pullThrough
  by_cases howner : pulls.headD h = h
  · rw [if_pos (by rw [ho.owner, howner]; exact beq_self_eq_true _)]
    exact ho.pullOwned howner n
  · have hended := ended_append_singleton (h := h) ho.ended
    have hlate : s.ended.contains h = true ↔ h ∈ pulls := by
      rw [ho.ended h]
      refine and_iff_left_of_imp fun hm => ?_
      cases pulls with
      | nil => cases hm
      | cons first pulls => exact fun he => howner (Option.some.inj he)
    have hserves : ∀ ended, (∀ x, ended.contains x = true ↔ x ∈ pulls ++ [h] ∧
        (pulls ++ [h]).head? ≠ some x) →
        Serves r (pulls ++ [h]) (handed ++ []) { s with ended := ended } := fun ended hx => {
      reader := ho.reader
      owner := by rw [head?_append_singleton]; exact ho.owner
      ended := hx
      handed := by rw [List.append_nil]; exact ho.handed
      idle := fun h => absurd h (List.append_ne_nil_of_right_ne_nil _ (List.cons_ne_nil _ _))
      events := fun _ => ho.events
      fault := fun _ => ho.fault }
    rw [if_neg (by rw [ho.owner]; exact fun he => howner (Option.some.inj (eq_of_beq he)))]
    by_cases hm : h ∈ pulls
    · rw [if_pos (.inr hm)] at hended
      rw [if_pos (hlate.2 hm)]
      exact ⟨hserves s.ended hended, brings_late howner rfl (by rw [if_pos hm])⟩
    · rw [if_neg (not_or_intro howner hm)] at hended
      rw [if_neg (mt hlate.1 hm)]
      exact ⟨hserves (h :: s.ended) hended, brings_late howner rfl (by rw [if_neg hm, ho.reader])⟩

/-! ## Any steps -/

/-- **One step**, by cases on what it pulls. -/
theorem Serves.perform (hs : Serves r pulls handed s) (step : Step) :
    Serves r (pulls ++ step.handle?.toList) (handed ++ (s.perform step).1.lines)
        (s.perform step).2 ∧
      Brings r pulls step.handle? (step.asked (r.traverse.lines.drop handed.length)) s
        (s.perform step).2 (s.perform step).1 := by
  have hidle : ∀ s', Serves r pulls handed s' → s'.history = s.history →
      Serves r (pulls ++ []) (handed ++ []) s' ∧
        Brings r pulls none [] s s' ⟨[], false, none⟩ := by
    intro s' hs' hhistory
    rw [List.append_nil, List.append_nil]
    exact ⟨hs', fun _ => ⟨hhistory, rfl⟩, fun _ h => (by cases h), fun _ h => (by cases h)⟩
  cases step with
  | obtain => exact hidle _ hs.obtain rfl
  | pull h n =>
    cases n with
    | zero => exact hidle s hs rfl
    | succ n =>
      obtain ⟨ho, hhistory⟩ := hs.own h
      obtain ⟨hserves, hbrings⟩ := ho.pullThrough (n + 1)
      rw [ho.lines_ahead] at hbrings
      exact ⟨hserves, hbrings.of_history_eq hhistory⟩
  | drain h =>
    obtain ⟨ho, hhistory⟩ := hs.own h
    obtain ⟨hserves, hbrings⟩ := ho.pullThrough ((s.own h).ahead.length + 1)
    rw [List.take_of_length_le (Nat.le_succ_of_le (List.length_filterMap_le _ _)),
      ho.lines_ahead] at hbrings
    exact ⟨hserves, hbrings.of_history_eq hhistory⟩

/-- **All steps** keep a session one that serves its reader. -/
theorem Serves.performAll (steps : List Step) (hs : Serves r pulls handed s) :
    Serves r (pulls ++ steps.filterMap Step.handle?)
      (handed ++ (s.performAll steps).1.flatMap Pulled.lines) (s.performAll steps).2 := by
  induction steps generalizing pulls handed s with
  | nil => simpa [Session.performAll] using hs
  | cons step steps ih =>
    have h := ih (hs.perform step).1
    rw [List.append_assoc, List.append_assoc] at h
    rw [Session.performAll, List.flatMap_cons]
    cases hhandle : step.handle? with
    | none => rwa [List.filterMap_cons_none hhandle, ← List.nil_append (steps.filterMap _),
        ← Option.toList_none, ← hhandle]
    | some handle => rwa [List.filterMap_cons_some hhandle, ← List.singleton_append,
        ← Option.toList_some, ← hhandle]

/-- **At most one traversal.** Whatever steps a session goes through, what
has happened is the start of the one traversal of its reader, and the
lines that all handles have been given are the lines in it. A step without
a pull does nothing. The handle that is pulled first is the only one
through which anything happens: it gets the lines that it asks for, of
those that are left. Any other learns on its first pull that it comes too
late, and has then ended, whether the traversal has come to its end, to a
fault or to neither. -/
theorem one_traversal (r : Reader) (before : List Step) (step : Step) :
    let pulls := before.filterMap Step.handle?
    let q := (start r).performAll before
    let handed := q.1.flatMap Pulled.lines
    let p := (q.2.perform step).1
    let s' := (q.2.perform step).2
    s'.history <+: r.traverse.events ∧
      s'.history.filterMap Event.line? = handed ++ p.lines ∧
      handed ++ p.lines <+: r.traverse.lines ∧
      Brings r pulls step.handle? (step.asked (r.traverse.lines.drop handed.length)) q.2 s' p := by
  have hbefore := (serves_start r).performAll before
  rw [List.nil_append, List.nil_append] at hbefore
  obtain ⟨hserves, hbrings⟩ := hbefore.perform step
  refine ⟨hserves.history_prefix, hserves.handed, ?_, hbrings⟩
  rw [← hserves.handed]
  exact hserves.history_prefix.filterMap Event.line?

end Session

/-! ## Two handles on a log stream

The handle that is obtained second is pulled first, and gives one of two
lines. -/

namespace Session.TwoHandles

local instance : Bounds := .usual

/-- A reader of the log stream. -/
def reader : Reader := ⟨.logStream LogStream.ThreePages.stream, ⟨1.0, 0, 0.0⟩,
  LogStream.ThreePages.client⟩

/-- The steps up to the first line. -/
def before : List Step := [.obtain, .obtain, .pull 1 1]

/-- The other handle comes too late, while the traversal stands half
way, and gets no line. -/
theorem one_traversal_late :
    let q := (start reader).performAll before
    q.1.map (fun p => p.lines.length) = [0, 0, 1] ∧
      (q.2.perform (.drain 0)).1 = ⟨[], false, some (.again "CloudWatchStreamReader")⟩ ∧
      (q.2.perform (.drain 0)).2.history = q.2.history := by
  have hlate := (one_traversal reader before (.drain 0)).2.2.2.late 0 rfl
    (show (before.filterMap Step.handle?).headD 0 ≠ 0 by decide)
  exact ⟨by decide +kernel, hlate.2, hlate.1⟩

end Session.TwoHandles

end DeliveryAudit
