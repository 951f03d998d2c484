import DeliveryAudit.Proofs.Destination.Converses
import DeliveryAudit.Proofs.Destination.Handles
import DeliveryAudit.Proofs.Destination.Listing
/-!
# Lines that are pulled in pieces

The lines of a traversal may be pulled through a handle a few at a time.
What has happened then is the traversal up to the last line that was
pulled (`Stands`), and nothing of what comes after it: the last call is
the one whose reply holds this line (`StopsAtLine`). One pull keeps this
(`Stands.pull_line`), so all pulls do, by induction on their number, until
one asks for more lines than there are; it ends as draining does
(`pieces_eq_drain`).
-/

namespace DeliveryAudit

namespace Session

/-! ## Stopping at a line -/

/-- Advancing over no more lines than there are stops at the last of
them. -/
theorem advance_of_lt {n : Nat} {events : List Event} (seen : List Event)
    (hn : n < (events.filterMap Event.line?).length) :
    ∃ es v left, events = es ++ .line v :: left ∧
      advance seen (n + 1) events = (.line v :: (es.reverse ++ seen), left, 0) ∧
      es.filterMap Event.line? ++ [v] = (events.filterMap Event.line?).take (n + 1) := by
  induction events generalizing n seen with
  | nil => exact absurd hn (Nat.not_lt_zero n)
  | cons e events ih =>
    rw [advance, Event.isLine_eq]
    cases hline : e.line? with
    | none =>
      rw [List.filterMap_cons_none hline] at hn ⊢
      obtain ⟨es, v, left, rfl, hadvance, hlines⟩ := ih (e :: seen) hn
      refine ⟨e :: es, v, left, rfl, ?_, by rw [List.filterMap_cons_none hline, hlines]⟩
      rw [if_neg (by simp), hadvance, List.reverse_cons, List.append_assoc]
      rfl
    | some v =>
      obtain rfl : e = .line v := by
        cases e with
        | line u => cases hline; rfl
        | _ => cases hline
      rw [List.filterMap_cons_some hline] at hn ⊢
      rw [if_pos Option.isSome_some]
      cases n with
      | zero => exact ⟨[], v, events, rfl, by rw [advance]; rfl, rfl⟩
      | succ n =>
        obtain ⟨es, u, left, rfl, hadvance, hlines⟩ :=
          ih (.line v :: seen) (Nat.lt_of_succ_lt_succ hn)
        refine ⟨.line v :: es, u, left, rfl, ?_, ?_⟩
        · rw [hadvance, List.reverse_cons, List.append_assoc]
          rfl
        · rw [List.filterMap_cons_some hline, List.cons_append, hlines, List.take_succ_cons]

/-- Advancing over more lines than there are takes all events. -/
theorem advance_of_gt {n : Nat} {events : List Event}
    (hn : (events.filterMap Event.line?).length < n) :
    advance [] n events = (events.reverse, [], n - (events.filterMap Event.line?).length) := by
  obtain ⟨es, left, rfl, hadvance, hlines, hleft⟩ := advance_eq n events []
  rw [List.take_of_length_le (Nat.le_of_lt hn)] at hlines
  have hnil : left = [] := hleft (by rw [hlines]; exact hn)
  rw [hadvance, hlines, hnil, List.append_nil, List.append_nil]

/-- How many lines these pieces ask for. -/
def askedFor (sizes : Nat → Nat) (i : Nat) : Nat := ((List.range i).map sizes).sum

theorem askedFor_succ (sizes : Nat → Nat) (i : Nat) :
    askedFor sizes (i + 1) = askedFor sizes i + sizes i := by
  simp [askedFor, List.range_succ]

theorem askedFor_mono (sizes : Nat → Nat) {i k : Nat} (hik : i ≤ k) :
    askedFor sizes i ≤ askedFor sizes k := by
  induction hik with
  | refl => exact Nat.le_refl _
  | step _ ih =>
    rw [askedFor_succ]
    omega

/-- One of the pieces is the first that asks for more lines than there
are. -/
theorem exists_last_piece {sizes : Nat → Nat} (hpos : ∀ i, 0 < sizes i) (count : Nat) :
    ∃ k, askedFor sizes k ≤ count ∧ count < askedFor sizes (k + 1) := by
  induction count with
  | zero => exact ⟨0, Nat.le_refl 0, by rw [askedFor_succ]; exact Nat.add_pos_right _ (hpos 0)⟩
  | succ count ih =>
    obtain ⟨k, hk, hk'⟩ := ih
    rcases Nat.lt_or_ge (count + 1) (askedFor sizes (k + 1)) with hlt | hge
    · exact ⟨k, by omega, hlt⟩
    · have hsize := hpos (k + 1)
      refine ⟨k + 1, hge, ?_⟩
      rw [askedFor_succ]
      omega

variable [Bounds]

/-- **A history that stops at a line** of the traversal, counted from 1:
its calls are the first of the traversal's, the last of them is the one
whose reply holds the line, and the counters count the replies so far. -/
structure StopsAtLine (r : Reader) (j : Nat) (history : List Event) : Prop where
  calls : history.filterMap Event.request? <+: r.traverse.requests
  /-- All lines of the replies before the last one have been handed out,
  and so many of the last one. -/
  last : ∃ before x m,
    r.client.exchanges (history.filterMap Event.request?) = before ++ [x] ∧
      m < x.lines.length ∧ j = (before.flatMap Exchange.lines).length + (m + 1) ∧
      history.filterMap Event.line? = before.flatMap Exchange.lines ++ x.lines.take (m + 1)
  pages : history.countP Event.isPage =
    (r.client.exchanges (history.filterMap Event.request?)).countP Exchange.isPage
  objects : history.countP Event.isObject =
    (r.client.exchanges (history.filterMap Event.request?)).countP Exchange.isObject
  lines : history.countP Event.isLine = j

variable {r : Reader} {h n : Nat} {es fs : List Event} {v : Value} {s : Session}

/-- **There is no read-ahead**: a reader hands out a line of the last reply
that it has got. -/
theorem stopsAtLine_of_events (hr : r.traverse.events = es ++ .line v :: fs) :
    StopsAtLine r ((es.filterMap Event.line?).length + 1) (es ++ [Event.line v]) := by
  have hconverses := r.converses_traverse.dialogue
  rw [hr] at hconverses
  obtain ⟨c, ws, hdialogue⟩ := hconverses.upTo_line
  have hcounts := (hdialogue.append (.line .nil)).counts
  have hrequests : (es ++ [Event.line v]).filterMap Event.request? =
      es.filterMap Event.request? := by
    rw [List.filterMap_append]
    exact List.append_nil _
  have hlines : (es ++ [Event.line v]).filterMap Event.line? = es.filterMap Event.line? ++ [v] :=
    List.filterMap_append
  refine ⟨?_, ?_, hcounts.1, hcounts.2, ?_⟩
  · rw [hrequests, Stretch.requests, hr, List.filterMap_append]
    exact List.prefix_append _ _
  · rw [hrequests, hlines]
    rcases hdialogue.lines_eq with ⟨-, hnil⟩ | ⟨before, x, ls, hx, hls, hes⟩
    · simp at hnil
    · rw [List.nil_append] at hes
      refine ⟨before, x, ls.length, hx, ?_, ?_, ?_⟩
      · rw [hls, List.length_append, List.length_cons]
        omega
      · rw [hes, List.length_append, Nat.add_assoc]
      · have htake : (ls ++ v :: ws).take (ls.length + 1) = ls ++ [v] := by
          rw [List.take_length_add_append, List.take_succ_cons, List.take_zero]
        rw [hes, hls, htake, List.append_assoc]
  · rw [Event.countP_isLine, hlines, List.length_append, List.length_singleton]

/-! ## One pull -/

/-- **A session that stands** between these events of its traversal: those
that have happened, and those that are ahead of the one handle that has
been pulled, if any has. -/
structure Stands (r : Reader) (h : Nat) (es fs : List Event) (s : Session) : Prop where
  events : es ++ fs = r.traverse.events
  history : s.history = es
  owned : ∃ handles, s.own h = ⟨r, some h, handles, [], es.reverse, fs, r.traverse.fault⟩

theorem stands_obtain (r : Reader) : Stands r 0 [] r.traverse.events (start r).obtain.2 :=
  ⟨rfl, rfl, 1, rfl⟩

/-- A pull through the handle is one of the owner. -/
theorem Stands.pull_eq (hs : Stands r h es fs s) (hn : 0 < n) :
    ∃ handles, s.pull h n =
      pullOwned ⟨r, some h, handles, [], es.reverse, fs, r.traverse.fault⟩ n := by
  obtain ⟨handles, howned⟩ := hs.owned
  have hzero : (n == 0) = false := beq_false_of_ne (Nat.ne_of_gt hn)
  refine ⟨handles, ?_⟩
  rw [pull, hzero, howned]
  simp [pullThrough]

/-- **A pull of no more lines than are ahead** stops at the last of
them. -/
theorem Stands.pull_line (hs : Stands r h es fs s) (hpos : 0 < n)
    (hn : n ≤ (fs.filterMap Event.line?).length) :
    ∃ es' v fs', fs = es' ++ .line v :: fs' ∧
      (s.pull h n).1 = ⟨(fs.filterMap Event.line?).take n, false, none⟩ ∧
      es'.filterMap Event.line? ++ [v] = (fs.filterMap Event.line?).take n ∧
      Stands r h (es ++ es' ++ [Event.line v]) fs' (s.pull h n).2 := by
  obtain ⟨m, rfl⟩ : ∃ m, n = m + 1 := ⟨n - 1, by omega⟩
  obtain ⟨handles, hpull⟩ := hs.pull_eq hpos
  obtain ⟨es', v, fs', hfs, hadvance, hlines⟩ := advance_of_lt [] (Nat.lt_of_succ_le hn)
  have hseen : (Event.line v :: es'.reverse).reverse.filterMap Event.line? =
      (fs.filterMap Event.line?).take (m + 1) := by
    rw [List.reverse_cons, List.reverse_reverse, List.filterMap_append, ← hlines]
    rfl
  have hpassed : Event.line v :: es'.reverse ++ es.reverse =
      (es ++ es' ++ [Event.line v]).reverse := by simp
  have hresult : s.pull h (m + 1) = (⟨(fs.filterMap Event.line?).take (m + 1), false, none⟩,
      ⟨r, some h, handles, [], (es ++ es' ++ [Event.line v]).reverse, fs', r.traverse.fault⟩) := by
    rw [hpull, pullOwned]
    simp only [hadvance, List.append_nil, hseen, hpassed]
    rfl
  refine ⟨es', v, fs', hfs, by rw [hresult], hlines, ?_⟩
  rw [hresult]
  refine ⟨?_, List.reverse_reverse _, handles, rfl⟩
  rw [← hs.events, hfs]
  simp

/-- After so many lines the others are ahead. -/
theorem Stands.lines_ahead {j : Nat} (hs : Stands r h es fs s)
    (hj : (es.filterMap Event.line?).length = j) :
    fs.filterMap Event.line? = r.traverse.lines.drop j := by
  rw [Stretch.lines, ← hs.events, List.filterMap_append, List.drop_left' hj]

/-- **A pull goes on** from where the traversal stands, and stops at the last
line that it brings. -/
theorem Stands.pull_further {j : Nat} (hs : Stands r h es fs s)
    (hj : (es.filterMap Event.line?).length = j) (hpos : 0 < n)
    (hn : j + n ≤ r.traverse.lines.length) :
    (s.pull h n).1 = ⟨(r.traverse.lines.drop j).take n, false, none⟩ ∧
      StopsAtLine r (j + n) (s.pull h n).2.history ∧
      ∃ es' fs', Stands r h es' fs' (s.pull h n).2 ∧
        (es'.filterMap Event.line?).length = j + n := by
  have hfs := hs.lines_ahead hj
  have hlength : (fs.filterMap Event.line?).length = r.traverse.lines.length - j := by
    rw [hfs, List.length_drop]
  obtain ⟨es', v, fs', -, hbrought, hpiece, hs'⟩ := hs.pull_line hpos (by omega)
  have hcount : ((es ++ es').filterMap Event.line?).length + 1 = j + n := by
    have h := congrArg List.length hpiece
    rw [List.length_append, List.length_singleton, List.length_take] at h
    rw [List.filterMap_append, List.length_append, hj]
    omega
  have htraverse : r.traverse.events = (es ++ es') ++ Event.line v :: fs' := by
    rw [← hs'.events]
    simp
  refine ⟨hfs ▸ hbrought, ?_, _, fs', hs', ?_⟩
  · rw [hs'.history, ← hcount]
    exact stopsAtLine_of_events htraverse
  · rw [List.filterMap_append, List.length_append]
    exact hcount

/-- **A pull of more lines than are ahead** comes to the end of the
traversal, and brings its fault. -/
theorem Stands.pull_end (hs : Stands r h es fs s)
    (hn : (fs.filterMap Event.line?).length < n) :
    (s.pull h n).1 = ⟨fs.filterMap Event.line?, r.traverse.fault.isNone, r.traverse.fault⟩ ∧
      (s.pull h n).2.history = r.traverse.events := by
  have hpos : 0 < n := Nat.lt_of_le_of_lt (Nat.zero_le _) hn
  obtain ⟨handles, hpull⟩ := hs.pull_eq hpos
  have hlacking : (n - (fs.filterMap Event.line?).length == 0) = false :=
    beq_false_of_ne (by omega)
  have hpassed : (fs.reverse ++ es.reverse).reverse = r.traverse.events := by
    rw [← hs.events]
    simp
  rw [hpull, pullOwned]
  simp only [advance_of_gt hn, hlacking, List.reverse_reverse]
  cases r.traverse.fault with
  | some f => exact ⟨rfl, hpassed⟩
  | none => exact ⟨rfl, hpassed⟩

/-- To drain a handle is to pull more lines than are ahead. -/
theorem Stands.drain_end (hs : Stands r h es fs s) :
    (s.drain h).1 = ⟨fs.filterMap Event.line?, r.traverse.fault.isNone, r.traverse.fault⟩ ∧
      (s.drain h).2.history = r.traverse.events := by
  obtain ⟨handles, howned⟩ := hs.owned
  have hdrain : s.drain h = s.pull h (fs.length + 1) := by
    rw [drain, howned]
    simp [pull, howned]
  rw [hdrain]
  exact hs.pull_end (Nat.lt_succ_of_le (List.length_filterMap_le _ _))

/-! ## All pulls -/

theorem performAll_concat (s : Session) (steps : List Step) (step : Step) :
    s.performAll (steps ++ [step]) =
      ((s.performAll steps).1 ++ [((s.performAll steps).2.perform step).1],
        ((s.performAll steps).2.perform step).2) := by
  induction steps generalizing s with
  | nil => rfl
  | cons first steps ih => rw [List.cons_append, performAll, ih]; rfl

/-- The session of a reader whose lines have been pulled through a handle,
in this number of pieces of these sizes, and what the pulls have
brought. -/
def pullPieces (r : Reader) (sizes : Nat → Nat) (i : Nat) : List Pulled × Session :=
  (start r).obtain.2.performAll ((List.range i).map fun m => .pull 0 (sizes m))

theorem pullPieces_succ (r : Reader) (sizes : Nat → Nat) (i : Nat) :
    pullPieces r sizes (i + 1) =
      ((pullPieces r sizes i).1 ++ [((pullPieces r sizes i).2.pull 0 (sizes i)).1],
        ((pullPieces r sizes i).2.pull 0 (sizes i)).2) := by
  rw [pullPieces, List.range_succ, List.map_append]
  exact performAll_concat _ _ _

/-- **Pieces that ask for no more lines than there are** bring these lines
and no end, and the traversal stops at the last of them. -/
structure PulledSoFar (r : Reader) (sizes : Nat → Nat) (i : Nat) : Prop where
  lines : (pullPieces r sizes i).1.flatMap Pulled.lines = r.traverse.lines.take (askedFor sizes i)
  goesOn : ∀ p ∈ (pullPieces r sizes i).1, p.ended = false ∧ p.fault = none
  idle : i = 0 → (pullPieces r sizes i).2.history = []
  stops : 0 < i → StopsAtLine r (askedFor sizes i) (pullPieces r sizes i).2.history

theorem PulledSoFar.succ {sizes : Nat → Nat} {i : Nat} (hso : PulledSoFar r sizes i)
    (hbrought : ((pullPieces r sizes i).2.pull 0 (sizes i)).1 =
      ⟨(r.traverse.lines.drop (askedFor sizes i)).take (sizes i), false, none⟩)
    (hstops : StopsAtLine r (askedFor sizes (i + 1))
      ((pullPieces r sizes i).2.pull 0 (sizes i)).2.history) : PulledSoFar r sizes (i + 1) where
  lines := by
    rw [pullPieces_succ, List.flatMap_append, hso.lines, List.flatMap_singleton, hbrought,
      askedFor_succ, List.take_add]
  goesOn p hp := by
    rw [pullPieces_succ, List.mem_append, List.mem_singleton] at hp
    rcases hp with hp | rfl
    · exact hso.goesOn p hp
    · rw [hbrought]
      exact ⟨rfl, rfl⟩
  idle h := absurd h (Nat.succ_ne_zero i)
  stops _ := by
    rw [pullPieces_succ]
    exact hstops

/-- By induction on the pieces: each of them is pulled where the ones
before it have stopped. -/
theorem exists_stands {sizes : Nat → Nat} (hpos : ∀ i, 0 < sizes i) {i : Nat}
    (hi : askedFor sizes i ≤ r.traverse.lines.length) :
    PulledSoFar r sizes i ∧ ∃ es fs, Stands r 0 es fs (pullPieces r sizes i).2 ∧
      (es.filterMap Event.line?).length = askedFor sizes i := by
  induction i with
  | zero =>
    exact ⟨⟨rfl, fun p hp => absurd hp List.not_mem_nil, fun _ => rfl,
      fun h => absurd h (Nat.lt_irrefl 0)⟩, [], r.traverse.events, stands_obtain r, rfl⟩
  | succ i ih =>
    rw [askedFor_succ] at hi
    obtain ⟨hso, es, fs, hs, hes⟩ := ih (Nat.le_of_add_right_le hi)
    obtain ⟨hbrought, hstops, hfurther⟩ := hs.pull_further hes (hpos i) hi
    rw [← askedFor_succ] at hstops hfurther
    refine ⟨hso.succ hbrought hstops, ?_⟩
    rw [pullPieces_succ]
    exact hfurther

/-- **Pulling in pieces agrees with draining.** Whatever a service answers,
and whatever the sizes of the pieces, one of the pulls through a handle is
the first to end. Up to it, the lines are those that were asked for, and
nothing has been read ahead of the last one. With it, the lines, the way
in which the traversal has ended and all that has happened on the way, the
calls, the delays and what is counted, are those of draining the handle at
once. -/
theorem pieces_eq_drain (r : Reader) (sizes : Nat → Nat) (hpos : ∀ i, 0 < sizes i) :
    let drained := (start r).obtain.2.drain 0
    drained.1.lines = r.traverse.lines ∧ drained.2.history = r.traverse.events ∧
      ∃ k, (∀ i ≤ k, PulledSoFar r sizes i) ∧
        (pullPieces r sizes (k + 1)).1.flatMap Pulled.lines = drained.1.lines ∧
        (∃ p, (pullPieces r sizes (k + 1)).1 = (pullPieces r sizes k).1 ++ [p] ∧
          p.ended = drained.1.ended ∧ p.fault = drained.1.fault ∧
          (p.ended = true ∨ p.fault.isSome = true)) ∧
        (pullPieces r sizes (k + 1)).2.history = drained.2.history := by
  obtain ⟨k, hfits, hlast⟩ := exists_last_piece hpos r.traverse.lines.length
  have hso : ∀ i ≤ k, PulledSoFar r sizes i := fun i hi =>
    (exists_stands hpos (Nat.le_trans (askedFor_mono sizes hi) hfits)).1
  obtain ⟨-, es, fs, hs, hes⟩ := exists_stands hpos hfits
  have hfs := hs.lines_ahead hes
  rw [askedFor_succ] at hlast
  have hmore : (fs.filterMap Event.line?).length < sizes k := by
    rw [hfs, List.length_drop]
    omega
  obtain ⟨hbrought, hhistory⟩ := hs.pull_end hmore
  obtain ⟨hdrained, hhistory'⟩ := (stands_obtain r).drain_end
  have hended : r.traverse.fault.isNone = true ∨ r.traverse.fault.isSome = true := by
    cases r.traverse.fault with
    | some f => exact .inr rfl
    | none => exact .inl rfl
  refine ⟨by rw [hdrained]; rfl, hhistory', k, hso, ?_, ⟨_, by rw [pullPieces_succ], ?_⟩, ?_⟩
  · rw [pullPieces_succ, List.flatMap_append, (hso k (Nat.le_refl k)).lines, List.flatMap_singleton,
      hbrought, hfs, List.take_append_drop, hdrained]
    rfl
  · rw [hbrought, hdrained]
    exact ⟨rfl, rfl, hended⟩
  · rw [pullPieces_succ, hhistory, hhistory']

end Session

/-! ## Growing pieces

Four lines of two objects, one of which is answered after a repetition, are
pulled one, two and three at a time. -/

namespace Session.GrowingPieces

local instance : Bounds := .usual

/-- The reader of the bucket. -/
def reader : Reader := ⟨.bucket Bucket.ThreeListings.bucket, ⟨1.0, 0, 0.0⟩,
  Bucket.ThreeListings.client⟩

/-- The first two pieces stop at the third line, which the reply to the
third call holds, and the third comes to the end, after four more calls. -/
theorem pieces_growing :
    (∀ i : Nat, 0 < i + 1) ∧ reader.traverse.lines.length = 4 ∧
      ((pullPieces reader (· + 1) 2).2.history.filterMap Event.request?).length = 3 ∧
      (∀ p ∈ (pullPieces reader (· + 1) 3).1.getLast?, p.ended = true) ∧
      ∃ k, ∀ i ≤ k, PulledSoFar reader (· + 1) i := by
  obtain ⟨-, -, k, hso, -⟩ := pieces_eq_drain reader (· + 1) Nat.succ_pos
  exact ⟨Nat.succ_pos, by decide +kernel, by decide +kernel, by decide +kernel, k, hso⟩

end Session.GrowingPieces

end DeliveryAudit
