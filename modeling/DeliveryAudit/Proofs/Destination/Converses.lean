import DeliveryAudit.Proofs.Destination.Replies
/-!
# Stretches that converse

A reader hands out the lines of one reply before it makes the next
request, and stops at an object that has no lines: this is what
`Converses` says of a stretch. Stretches that are joined keep it
(`Converses.andThen`), a call does whatever it is settled with
(`converses_call`), and so a whole traversal does (`converses_traverse`).
-/

namespace DeliveryAudit

/-! ## Attempts of a call -/

namespace Settlement

variable {α : Type} {b : RetryBudget Float} {started : Float}
variable [Bounds]

/-- An outcome is a value just when it settles a call with this value. -/
theorem verdict?_eq_some {n : Nat} {t : Float} {o : Except CallError α} {v : Verdict Float α}
    (h : verdict? b n t o = some v) (a : α) : v = .value a ↔ o = .ok a := by
  unfold verdict? at h
  cases o with
  | ok a' =>
    cases h
    rw [Verdict.value.injEq, Except.ok.injEq]
  | error e =>
    -- No verdict on an error is a value.
    have hno : ∀ a', v ≠ .value a' := by
      rintro a' rfl
      cases hj : e.judge with
      | throttled =>
        simp only [hj] at h
        split at h <;> cases h
      | _ => simp [hj] at h
    exact ⟨fun hv => absurd hv (hno a), nofun⟩

theorem verdict?_eq_none {n : Nat} {t : Float} {o : Except CallError α}
    (h : verdict? b n t o = none) : ∃ e, o = .error e := by
  cases o with
  | ok a => cases h
  | error e => exact ⟨e, rfl⟩

/-- **What a call has done to its script**: every attempt has used up an
answer, all but the last one were errors, and the last one says whether
there is a value. -/
structure Consumes (s : Script α) (r : Settlement Float α) (m : Nat) : Prop where
  attempts : r.attempts = m + 1
  left : r.left = (s.skip (m + 1)).answers
  errors : ∀ i < m, ∃ e, (s.answerAt i).outcome = .error e
  value : ∀ a, r.verdict = .value a ↔ (s.answerAt m).outcome = .ok a

/-- A call that goes on with the answer that comes again and again. -/
theorem settleBy_consumes {s : Script α} (followed : Nat) {n : Nat} (clock : Float)
    (hn : ∀ i < n, ∃ e, (s.answerAt i).outcome = .error e) (hlen : s.answers.length ≤ n)
    (hpos : 0 < n + followed) :
    ∃ m, Consumes s (settleBy b started s.last followed n clock) m := by
  have hleft : ∀ m, n ≤ m → (s.skip m).answers = [] := fun m hm =>
    List.drop_eq_nil_iff.2 (Nat.le_trans hlen hm)
  have hlast : s.answerAt n = s.last := by
    rw [Script.answerAt, List.getD_eq_getElem?_getD, List.getElem?_eq_none hlen]
    rfl
  induction followed generalizing n clock with
  | zero =>
    obtain ⟨m, rfl⟩ : ∃ m, n = m + 1 := ⟨n - 1, by omega⟩
    obtain ⟨e, he⟩ := hn m (by omega)
    refine ⟨m, rfl, (hleft _ (by omega)).symm, fun i hi => hn i (by omega), fun a => ?_⟩
    rw [he]
    constructor
    · intro h
      cases h
    · intro h
      cases h
  | succ followed ih =>
    rw [settleBy]
    cases hv : verdict? b (n + 1) (Time.sub (Time.add clock s.last.takes) started)
        s.last.outcome with
    | some v =>
      refine ⟨n, rfl, (hleft _ (by omega)).symm, hn, fun a => ?_⟩
      rw [hlast]
      exact verdict?_eq_some hv a
    | none =>
      obtain ⟨e, he⟩ := verdict?_eq_none hv
      refine ih _ (fun i hi => ?_) (by omega) (by omega) (fun m hm => hleft m (by omega)) ?_
      · rcases Nat.lt_succ_iff_lt_or_eq.1 hi with hi | rfl
        · exact hn i hi
        · exact ⟨e, by rw [hlast, he]⟩
      · rw [Script.answerAt, List.getD_eq_getElem?_getD, List.getElem?_eq_none (by omega)]
        rfl

theorem settleFrom_consumes {s : Script α} (as : List (Answer Float α)) {n : Nat} (clock : Float)
    (hn : ∀ i < n, ∃ e, (s.answerAt i).outcome = .error e) (has : s.answers.drop n = as) :
    ∃ m, Consumes s (settleFrom b started s.last n clock as) m := by
  induction as generalizing n clock with
  | nil =>
    exact settleBy_consumes _ clock hn (List.drop_eq_nil_iff.1 has) (by omega)
  | cons a as ih =>
    have hhead : s.answerAt n = a := by
      rw [Script.answerAt, List.getD_eq_getElem?_getD, ← List.head?_drop, has]
      rfl
    have hrest : s.answers.drop (n + 1) = as := by rw [← List.tail_drop, has]; rfl
    rw [settleFrom]
    cases hv : verdict? b (n + 1) (Time.sub (Time.add clock a.takes) started) a.outcome with
    | some v =>
      refine ⟨n, rfl, hrest.symm, hn, fun a' => ?_⟩
      rw [hhead]
      exact verdict?_eq_some hv a'
    | none =>
      obtain ⟨e, he⟩ := verdict?_eq_none hv
      refine ih _ (fun i hi => ?_) hrest
      rcases Nat.lt_succ_iff_lt_or_eq.1 hi with hi | rfl
      · exact hn i hi
      · exact ⟨e, by rw [hhead, he]⟩

/-- **A call goes through its script** answer by answer. -/
theorem settle_consumes (b : RetryBudget Float) (started : Float) (s : Script α) :
    ∃ m, Consumes s (settle b started s.answers s.last) m :=
  settleFrom_consumes s.answers started (fun i hi => absurd hi (Nat.not_lt_zero i)) rfl

end Settlement

/-! ## Conversing -/

namespace Stretch

variable {b : RetryBudget Float} {description : String} {r : Request}

/-- The attempts of a call before the last one. -/
def waitEvents (b : RetryBudget Float) (description : String) (r : Request) (m : Nat) :
    List Event :=
  (List.range m).flatMap fun i =>
    [.called r, .logged (Settlement.notice b description (i + 1)), .slept b.delay]

theorem waitEvents_succ (m : Nat) : waitEvents b description r (m + 1) =
    waitEvents b description r m ++
      [.called r, .logged (Settlement.notice b description (m + 1)), .slept b.delay] := by
  simp [waitEvents, List.range_succ]

/-- The last attempt comes after the others. -/
theorem attemptEvents_eq (m : Nat) :
    attemptEvents b description r (m + 1) = waitEvents b description r m ++ [.called r] := by
  induction m with
  | zero => rfl
  | succ m ih =>
    rw [waitEvents_succ, List.append_assoc, List.cons_append, List.append_cons, ← ih]
    simp [attemptEvents, List.range_succ]

/-- **A stretch that converses** with a client, from where the client
stands and the lines that are still to be handed out. It leaves no line
behind, and an object without lines is the fault that ends it. -/
structure Converses (c : Client) (us : List Value) (s : Stretch) : Prop where
  dialogue : Dialogue c us s.events s.world.client []
  heeds : ∀ x ∈ c.exchanges s.requests, ∀ f, x.defect? = some f → s.fault = some f

variable {c : Client} {us : List Value} {s : Stretch} {w : World} {f : TraversalFault}

theorem converses_none (hw : w.client = c) : Converses c [] (none w) :=
  ⟨hw ▸ .nil, fun _ hx => absurd hx List.not_mem_nil⟩

theorem converses_stop (f : TraversalFault) (hw : w.client = c) : Converses c [] (stop f w) :=
  ⟨hw ▸ .nil, fun _ hx => absurd hx List.not_mem_nil⟩

/-- A notice before a stretch. -/
theorem Converses.after_note {n : Notice} (h : Converses c us s) :
    Converses c us (after [.logged n] s) :=
  ⟨.aside (Event.isAside_logged n) h.dialogue, h.heeds⟩

/-- Lines that are handed out before a stretch. -/
theorem Converses.after_lines (vs : List Value) (h : Converses c us s) :
    Converses c (vs ++ us) (after (vs.map Event.line) s) where
  dialogue := (Dialogue.map_line vs us).append h.dialogue
  heeds x hx := by
    rw [requests_after, requests_map_line, List.nil_append] at hx
    exact h.heeds x hx

/-- **Stretches that are joined** converse as both do. -/
theorem Converses.andThen {next : World → Stretch} (h : Converses c us s)
    (hnext : s.fault = .none → Converses s.world.client [] (next s.world)) :
    Converses c us (s.andThen next) := by
  cases hfault : s.fault with
  | some f =>
    rw [andThen_of_fault_eq_some hfault]
    exact h
  | none =>
    have ht := hnext hfault
    rw [andThen_of_fault_eq_none hfault]
    refine ⟨h.dialogue.append ht.dialogue, fun x hx f hf => ?_⟩
    have happend := h.dialogue.exchanges_append (next s.world).requests
    rw [requests_after, happend, List.mem_append] at hx
    rcases hx with hx | hx
    · rw [h.heeds x hx f hf] at hfault
      cases hfault
    · exact ht.heeds x hx f hf

/-- What comes after events that converse converses from there. -/
theorem Converses.after {es : List Event} (h : Converses c us (happen es w))
    (ht : Converses w.client [] s) : Converses c us (Stretch.after es s) := by
  change Converses c us ((happen es w).andThen fun _ => s)
  exact h.andThen fun _ => ht

/-- A stretch that follows a reply: it counts the reply, converses from the
lines in it, and stops if it is an object without lines. -/
def Follows (r : Request) (a : Reply) (c : Client) (t : Stretch) : Prop :=
  ∃ u : Stretch, t = after [a.mark] u ∧ Converses c (Exchange.lines ⟨r, .ok a⟩) u ∧
    ∀ f, Exchange.defect? ⟨r, .ok a⟩ = some f → u.fault = some f

/-- An attempt that is answered. -/
theorem converses_answered {a : Reply} {t : Stretch} (hr : (c.reply r).1 = .ok a)
    (ht : Follows r a (c.reply r).2 t) : Converses c [] (after [.called r] t) := by
  obtain ⟨u, rfl, hu, hdefect⟩ := ht
  refine ⟨.answered hr hu.dialogue, fun x hx f hf => ?_⟩
  have hrequests : (after [.called r] (after [a.mark] u)).requests = r :: u.requests := by
    rw [requests_after, requests_after, List.filterMap_cons_none a.mark_request?]
    rfl
  rw [hrequests, Client.exchanges, hr, List.mem_cons] at hx
  rcases hx with rfl | hx
  · exact hdefect f hf
  · exact hu.heeds x hx f hf

/-- An attempt that fails, and what is done before the next one. -/
theorem converses_failed {e : CallError} {fault : Option TraversalFault} {es : List Event}
    (hr : (c.reply r).1 = .error e) (hw : w.client = (c.reply r).2) (hes : ∀ e ∈ es, e.IsAside) :
    Converses c [] ⟨.called r :: es, fault, w⟩ := by
  have hdialogue : ∀ c', Dialogue c' [] es c' [] := by
    intro c'
    induction es with
    | nil => exact .nil
    | cons e es ih =>
      have he := hes e List.mem_cons_self
      exact .aside he (ih fun e he => hes e (List.mem_cons_of_mem _ he))
  have hrequests : es.filterMap Event.request? = [] :=
    List.filterMap_eq_nil_iff.2 fun e he => (hes e he).request
  refine ⟨.failed hr (hw ▸ hdialogue _), fun x hx f hf => ?_⟩
  rw [requests, Event.requests_called, hrequests, Client.exchanges, Client.exchanges,
    List.mem_singleton, hr] at hx
  rw [hx] at hf
  cases r <;> cases hf

section Call

variable {α : Type} {wrap : α → Reply} {script : Script α}
variable {leave : List (Answer Float α) → Client} {next : α → World → Stretch}

/-- **The attempts before the last one** use up as many answers. -/
theorem converses_waitEvents (hr : RepliesBy r wrap script leave) (m : Nat)
    (herrors : ∀ i < m, ∃ e, (script.answerAt i).outcome = .error e)
    (hw : w.client = leave (script.skip m).answers) :
    Converses (leave script.answers) [] (happen (waitEvents b description r m) w) := by
  induction m generalizing w with
  | zero => exact converses_none hw
  | succ m ih =>
    obtain ⟨e, he⟩ := herrors m (Nat.lt_succ_self m)
    have hbefore : Converses (leave script.answers) [] (happen (waitEvents b description r m)
        { w with client := leave (script.skip m).answers }) :=
      ih (fun i hi => herrors i (by omega)) rfl
    have hfailed : ((leave (script.skip m).answers).reply r).1 = .error e := by rw [hr m, he]; rfl
    have hleft : w.client = ((leave (script.skip m).answers).reply r).2 := by rw [hr m, hw]
    have hwait : ∀ e ∈ [.logged (Settlement.notice b description (m + 1)), .slept b.delay],
        Event.IsAside e := by
      intro e he
      simp only [List.mem_cons, List.not_mem_nil, or_false] at he
      rcases he with rfl | rfl
      · exact Event.isAside_logged _
      · exact Event.isAside_slept _
    rw [waitEvents_succ]
    exact hbefore.after (converses_failed hfailed hleft hwait)

variable [Bounds]

/-- **A call converses**: the attempts fail up to the last one, and what
follows its value follows the reply. -/
theorem converses_call (hr : RepliesBy r wrap script leave) (hw : leave script.answers = w.client)
    (hnext : ∀ v w', Follows r (wrap v) w'.client (next v w')) :
    Converses w.client [] (call b description r w script leave next) := by
  obtain ⟨m, hattempts, hleft, herrors, hvalue⟩ := Settlement.settle_consumes b w.clock script
  have hreply := hr m
  unfold call
  generalize Settlement.settle b w.clock script.answers script.last = st at *
  have hwaits : Converses (leave script.answers) [] (happen (waitEvents b description r m)
      { w with client := leave (script.skip m).answers }) :=
    converses_waitEvents hr m herrors rfl
  rw [hw] at hwaits
  -- The last attempt stands apart from the others.
  dsimp only
  rw [happen_andThen, hattempts, attemptEvents_eq, ← after_after]
  refine hwaits.after ?_
  cases ho : (script.answerAt m).outcome with
  | ok a =>
    rw [ho] at hreply
    simp only [(hvalue a).2 ho]
    refine converses_answered (a := wrap a) (by rw [hreply]; rfl) ?_
    rw [hreply, ← hleft]
    exact hnext a _
  | error e =>
    rw [ho] at hreply
    have hfailed : ((leave (script.skip m).answers).reply r).1 = .error e := by rw [hreply]; rfl
    have hclient : leave st.left = ((leave (script.skip m).answers).reply r).2 := by
      rw [hreply, hleft]
    cases hv : st.verdict with
    | value a => rw [(hvalue a).1 hv] at ho; cases ho
    | _ => exact converses_failed hfailed hclient fun e he => absurd he List.not_mem_nil

end Call

end Stretch

/-! ## Traversals converse -/

namespace Bucket

variable {b : RetryBudget Float} {src : Bucket} {next : Value → World → Stretch}

theorem follows_readBody (key : Value) (body : Body) (w : World) :
    Stretch.Follows (.getObject src.name key) (.object body) w.client (readBody key body w) := by
  refine ⟨_, Stretch.happen_andThen, ?_⟩
  cases hlines : objectLines (keyText key) body with
  | error f =>
    have hnone : Exchange.lines ⟨.getObject src.name key, .ok (.object body)⟩ = [] := by
      simp [Exchange.lines, hlines, Except.toOption]
    have hdefect : Exchange.defect? ⟨.getObject src.name key, .ok (.object body)⟩ = some f := by
      simp only [Exchange.defect?, hlines]
    rw [hnone, hdefect]
    exact ⟨Stretch.converses_stop f rfl, fun g hg => hg⟩
  | ok ls =>
    have hall : Exchange.lines ⟨.getObject src.name key, .ok (.object body)⟩ = ls.map lineOf := by
      simp [Exchange.lines, hlines, Except.toOption]
    have hdefect : Exchange.defect? ⟨.getObject src.name key, .ok (.object body)⟩ = none := by
      simp only [Exchange.defect?, hlines]
    have hw : ({ w with objects := w.objects + 1 } : World).client = w.client := rfl
    have h := (Stretch.converses_none hw).after_lines (ls.map lineOf)
    rw [List.append_nil, ← map_lineEvent] at h
    rw [hall, hdefect]
    refine ⟨?_, fun g hg => by cases hg⟩
    simpa [Stretch.after, Stretch.none, Stretch.happen] using h

variable [Bounds]

theorem converses_readObject (key : Value) (w : World) :
    Stretch.Converses w.client [] (readObject b src key w) := by
  unfold readObject
  split
  · rename_i hkey
    exact Stretch.converses_call (repliesBy_object w.client src.name hkey)
      (leave_self w.client key) fun body w' => follows_readBody key body w'
  · rename_i hkey
    have hreply : w.client.reply (.getObject src.name key) =
        (.error (.other "TypeError" (ShapeFault.unhashable key.kindName).message), w.client) := by
      rw [Client.reply, if_neg hkey]
    exact Stretch.converses_failed (congrArg Prod.fst hreply) (congrArg Prod.snd hreply).symm
      fun e he => absurd he List.not_mem_nil

theorem converses_readObjects (os : List Value) (w : World) :
    Stretch.Converses w.client [] (readObjects b src os w) := by
  induction os generalizing w with
  | nil => exact Stretch.converses_none rfl
  | cons o os ih =>
    rw [readObjects]
    cases key? o with
    | error f => exact Stretch.converses_stop f rfl
    | ok key => exact (converses_readObject key w).andThen fun _ => ih _

theorem converses_readPage (hnext : ∀ token w, Stretch.Converses w.client [] (next token w))
    (page : List (Value × Value)) (w : World) :
    Stretch.Converses w.client [] (readPage b src next page w) := by
  unfold readPage
  cases contents page with
  | error f => exact Stretch.converses_stop f rfl
  | ok os =>
    refine ((converses_readObjects os w).andThen fun _ => ?_).after_note
    cases continuation src page with
    | error f => exact Stretch.converses_stop f rfl
    | ok token =>
      cases token with
      | some token => exact hnext token _
      | none => exact (Stretch.converses_none rfl).after_note

theorem follows_readAnswer (hnext : ∀ token w, Stretch.Converses w.client [] (next token w))
    (token : Option Value) (answer : Value) (w : World) :
    Stretch.Follows (.listObjects src.name src.stem token) (.page answer) w.client
      (readAnswer b src next answer w) := by
  refine ⟨_, Stretch.happen_andThen, ?_, fun f hf => by cases hf⟩
  cases Stretch.members? answer with
  | error f => exact Stretch.converses_stop f rfl
  | ok page => exact converses_readPage hnext page { w with pages := w.pages + 1 }

theorem converses_readPages (n : Nat) (token : Option Value) (w : World) :
    Stretch.Converses w.client [] (readPages b src n token w) := by
  induction n generalizing token w with
  | zero => exact Stretch.converses_stop _ rfl
  | succ n ih =>
    exact Stretch.converses_call (repliesBy_listings w.client src.name src.stem token) rfl
      fun answer w' => follows_readAnswer (fun token w => ih (some token) w) token answer w'

end Bucket

namespace LogStream

variable {b : RetryBudget Float} {src : LogStream} {next : Value → Nat → World → Stretch}

/-- The lines of a page are handed out. -/
theorem converses_readPage (hnext : ∀ token n w, Stretch.Converses w.client [] (next token n w))
    (sent : Option Value) (lines : Nat) (page : List (Value × Value)) (w : World) :
    Stretch.Converses w.client (pageLines ((events page).toOption.getD []))
      (readPage src sent lines next page w) := by
  unfold readPage
  cases events page with
  | error f => exact Stretch.converses_stop f rfl
  | ok found =>
    have hread : Stretch.Converses w.client (pageLines found)
        ⟨(pageLines found).map Event.line, pageFault found, w⟩ := by
      have h := Dialogue.map_line (c := w.client) (pageLines found) []
      rw [List.append_nil] at h
      refine ⟨h, fun x hx => ?_⟩
      rw [Stretch.requests, Stretch.requests_map_line] at hx
      cases hx
    refine Stretch.Converses.andThen hread.after_note fun _ => ?_
    cases continuation src sent page with
    | error f => exact Stretch.converses_stop f rfl
    | ok token =>
      cases token with
      | some token => exact hnext token _ _
      | none => exact (Stretch.converses_none rfl).after_note

theorem follows_readAnswer (hnext : ∀ token n w, Stretch.Converses w.client [] (next token n w))
    (sent : Option Value) (lines : Nat) (answer : Value) (w : World) :
    Stretch.Follows (.getLogEvents src.group src.stream sent) (.page answer) w.client
      (readAnswer src sent lines next answer w) := by
  refine ⟨_, Stretch.happen_andThen, ?_, fun f hf => by cases hf⟩
  cases answer with
  | mapping page => exact converses_readPage hnext sent lines page { w with pages := w.pages + 1 }
  | _ => exact Stretch.converses_stop _ rfl

variable [Bounds]

theorem converses_readPages (n : Nat) (token : Option Value) (lines : Nat) (w : World) :
    Stretch.Converses w.client [] (readPages b src n token lines w) := by
  induction n generalizing token lines w with
  | zero => exact Stretch.converses_stop _ rfl
  | succ n ih =>
    exact Stretch.converses_call (repliesBy_events w.client src.group src.stream token) rfl
      fun answer w' => follows_readAnswer (fun token lines w => ih (some token) lines w) token
        lines answer w'

end LogStream

variable [Bounds]

/-- **A traversal converses** with its client, from the first request to
the last line. -/
theorem Reader.converses_traverse (r : Reader) : r.traverse.Converses r.client [] := by
  unfold Reader.traverse
  cases r.destination with
  | bucket src => exact Bucket.converses_readPages _ none (World.start r.client)
  | logStream src => exact LogStream.converses_readPages _ none 0 (World.start r.client)

end DeliveryAudit
