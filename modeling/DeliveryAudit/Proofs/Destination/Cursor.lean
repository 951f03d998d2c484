import DeliveryAudit.Proofs.Destination.Calls
import Mathlib.Data.List.TakeWhile
import Mathlib.Data.Nat.Find
/-!
# The cursor of a log stream

The first request for a page of a log stream carries no token, and every
other one the token of the answer before it (`sentAt`). A page whose
token is the one that was sent ends the stream (`Ends`), and any other
page with a token goes on (`GoesOn`). A traversal is read off answer by
answer: `readPages_page` is one page, and `readPages_run` the pages that go
on, by induction on their number.
-/

namespace DeliveryAudit

namespace LogStream

/-! ## What the answers say -/

/-- The answer to a request for a page, counted from 0. -/
def answerAt (c : Client) (i : Nat) : Answer Float Value := c.eventScript.answerAt i

/-- The token of an answer for the next page. -/
def tokenOf (a : Answer Float Value) : Value :=
  (Value.entry? "nextForwardToken" a.entries).getD .null

/-- The log events of an answer. -/
def eventsOf (a : Answer Float Value) : List Value :=
  match events a.entries with
  | .ok found => found
  | .error _ => []

/-- The messages of an answer that are not empty. -/
def messages (a : Answer Float Value) : List Value := (eventsOf a).filterMap lineOf?

/-- Whether an answer is a page: a mapping with log events that have
members. -/
def IsPage (a : Answer Float Value) : Prop :=
  ∃ page found, a.outcome = .ok (.mapping page) ∧ events page = .ok found ∧
    ∀ e ∈ found, hasMembers e = true

/-- The token that a request carries, counted from 0. -/
def sentAt (c : Client) : Nat → Option Value
  | 0 => none
  | i + 1 => some (tokenOf (answerAt c i))

/-- Whether an answer goes on: it is a page with a token that is not the
one that was sent. -/
def GoesOn (c : Client) (i : Nat) : Prop :=
  IsPage (answerAt c i) ∧ (tokenOf (answerAt c i)).isTruthy = true ∧
    (sentAt c i).any (tokenOf (answerAt c i)).same = false

/-- Whether an answer ends the stream: it is a page, and its token is the
one that was sent. -/
def Ends (c : Client) (i : Nat) : Prop :=
  IsPage (answerAt c i) ∧ (tokenOf (answerAt c i)).isTruthy = true ∧
    ∃ sent, sentAt c i = some sent ∧ (tokenOf (answerAt c i)).same sent = true

/-- The messages of the first answers. -/
def yielded (c : Client) (n : Nat) : List Value :=
  (List.range n).flatMap fun i => messages (answerAt c i)

/-- What happens at a page. -/
def pageEvents (src : LogStream) (c : Client) (i : Nat) : List Event :=
  [.called (.getLogEvents src.group src.stream (sentAt c i)), .page,
    Stretch.note .debug ("Log event page " ++ toString (i + 1) ++ ": " ++
      toString (eventsOf (answerAt c i)).length ++ " events")] ++
    (messages (answerAt c i)).map Event.line

/-- The notice at the end of a stream. -/
def closingNote (src : LogStream) (lines pages : Nat) : Event :=
  Stretch.note .info ("Read " ++ toString lines ++ " events from " ++ src.group ++ "/" ++
    src.stream ++ " in " ++ toString pages ++ " pages")

/-- What a call for a page is described as. -/
def description (src : LogStream) : String :=
  "get the log events from log group " ++ quoted src.group

variable {c : Client} {i : Nat} {w : World}

theorem yielded_succ : yielded c (i + 1) = yielded c i ++ messages (answerAt c i) := by
  simp [yielded, List.range_succ]

/-- The last page is not among those that go on. -/
theorem Ends.not_goesOn (h : Ends c i) : ¬ GoesOn c i := by
  obtain ⟨-, -, sent, hsent, hsame⟩ := h
  rintro ⟨-, -, hany⟩
  rw [hsent, Option.any_some, hsame] at hany
  cases hany

/-- A page goes on, ends the stream, or has no token. -/
theorem IsPage.cases (h : IsPage (answerAt c i)) :
    GoesOn c i ∨ Ends c i ∨ (tokenOf (answerAt c i)).isTruthy = false := by
  cases htoken : (tokenOf (answerAt c i)).isTruthy with
  | false => exact .inr (.inr rfl)
  | true =>
    cases hany : (sentAt c i).any (tokenOf (answerAt c i)).same with
    | false => exact .inl ⟨h, htoken, hany⟩
    | true =>
      rw [Option.any_eq_true] at hany
      exact .inr (.inl ⟨h, htoken, hany⟩)

theorem IsPage.outcome_ne {a : Answer Float Value} (h : IsPage a) (e : CallError) :
    a.outcome ≠ .error e := by
  obtain ⟨page, found, ho, -⟩ := h
  rw [ho]
  exact fun he => nomatch he

/-- Only answers that the client has go on. -/
theorem GoesOn.lt_length (h : GoesOn c i) : i < c.events.length := by
  obtain ⟨⟨page, found, ho, -⟩, -⟩ := h
  refine Nat.lt_of_not_le fun hle => ?_
  have hlast : answerAt c i = c.ended "GetLogEvents" := by
    rw [answerAt, Script.answerAt, List.getD_eq_getElem?_getD,
      List.getElem?_eq_none (by exact hle)]
    rfl
  rw [hlast] at ho
  cases ho

/-! ## What is seen of pages -/

section Pages

variable {src : LogStream}

theorem lines_pageEvents :
    (pageEvents src c i).filterMap Event.line? = messages (answerAt c i) := by
  rw [pageEvents, List.filterMap_append, Stretch.lines_map_line]
  rfl

theorem requests_pageEvents : (pageEvents src c i).filterMap Event.request? =
    [.getLogEvents src.group src.stream (sentAt c i)] := by
  rw [pageEvents, List.filterMap_append, Stretch.requests_map_line]
  rfl

theorem sleeps_pageEvents : (pageEvents src c i).filterMap Event.sleep? = [] := by
  rw [pageEvents, List.filterMap_append, Stretch.sleeps_map_line]
  rfl

theorem pages_pageEvents : (pageEvents src c i).countP Event.isPage = 1 := by
  rw [pageEvents, List.countP_append, Stretch.pages_map_line]
  rfl

theorem lines_pages (k : Nat) :
    ((List.range k).flatMap (pageEvents src c)).filterMap Event.line? = yielded c k := by
  simp only [List.filterMap_flatMap, lines_pageEvents]
  rfl

theorem requests_pages (k : Nat) :
    ((List.range k).flatMap (pageEvents src c)).filterMap Event.request? =
      (List.range k).map fun i => .getLogEvents src.group src.stream (sentAt c i) := by
  simp only [List.filterMap_flatMap, requests_pageEvents, List.map_eq_flatMap]

theorem sleeps_pages (k : Nat) :
    ((List.range k).flatMap (pageEvents src c)).filterMap Event.sleep? = [] := by
  simp only [List.filterMap_flatMap, sleeps_pageEvents]
  exact List.flatMap_eq_nil_iff.2 fun _ _ => rfl

theorem pages_pages (k : Nat) :
    ((List.range k).flatMap (pageEvents src c)).countP Event.isPage = k := by
  induction k with
  | zero => rfl
  | succ k ih =>
    rw [List.range_succ, List.flatMap_append, List.countP_append, ih, List.flatMap_singleton,
      pages_pageEvents]

end Pages

/-! ## Reading a page -/

variable (b : RetryBudget Float) (src : LogStream) (n lines : Nat)

/-- Where a traversal stands after so many pages. -/
structure At (c : Client) (i : Nat) (w : World) : Prop where
  script : w.client.eventScript = c.eventScript.skip i
  pages : w.pages = i

/-- The lines of a page whose log events have members, and its fault. -/
theorem pageLines_of_hasMembers {found : List Value} (h : ∀ e ∈ found, hasMembers e = true) :
    pageLines found = found.filterMap lineOf? ∧ pageFault found = none := by
  constructor
  · rw [pageLines, List.takeWhile_eq_self_iff.2 h]
  · rw [pageFault, List.find?_eq_none.2 fun e he => by simp [h e he]]
    rfl

/-- An answer that is no page is a fault, and nothing is asked after it. -/
theorem readAnswer_of_not_isPage {a : Answer Float Value} {v : Value} (sent : Option Value)
    (next : Value → Nat → World → Stretch) (w : World) (ho : a.outcome = .ok v) (h : ¬ IsPage a) :
    ∃ es f w', readAnswer src sent lines next v w = ⟨es, some f, w'⟩ ∧
      es.filterMap Event.request? = [] ∧ es.filterMap Event.sleep? = [] := by
  rw [readAnswer, Stretch.happen_andThen]
  cases hm : Stretch.members? v with
  | error f => exact ⟨[.page], f, _, rfl, rfl, rfl⟩
  | ok page =>
    have hv : v = .mapping page := by
      cases v with
      | mapping entries => cases hm; rfl
      | _ => cases hm
    subst hv
    simp only [readPage]
    cases hfound : events page with
    | error f => exact ⟨[.page], f, _, rfl, rfl, rfl⟩
    | ok found =>
      cases hf : pageFault found with
      | some f =>
        simp only [hf, Stretch.fault_andThen]
        refine ⟨_, f, _, rfl, ?_, ?_⟩
        · simp [Stretch.note, Event.request?]
        · simp [Stretch.note, Event.sleep?]
      | none =>
        rw [pageFault, Option.map_eq_none_iff, List.find?_eq_none] at hf
        exact absurd ⟨page, found, ho, hfound, fun e he => by simpa using hf e he⟩ h

variable [Bounds]

/-- A request is answered by the answer at its place. -/
theorem readPages_answer (hq : c.eventScript.IsQuiet) (hw : At c i w) (token : Option Value) :
    ∃ w' : World, w'.client.eventScript = c.eventScript.skip (i + 1) ∧ w'.pages = i ∧
      readPages b src (n + 1) token lines w =
        Stretch.after [.called (.getLogEvents src.group src.stream token)]
          (Stretch.proceed (description src)
            (readAnswer src token lines fun token lines w => readPages b src n (some token) lines w)
            (answerAt c i) w') := by
  rw [readPages, hw.script]
  obtain ⟨t, ht⟩ := Stretch.call_of_isQuiet b (description src)
    (.getLogEvents src.group src.stream token) w (fun left => { w.client with events := left })
    (readAnswer src token lines fun token lines w => readPages b src n (some token) lines w)
    (hq.skip i)
  rw [hq.next_skip, hq.rest_skip] at ht
  refine ⟨{ w with
    client := { w.client with events := (c.eventScript.skip (i + 1)).answers }
    clock := t }, ?_, hw.pages, ht⟩
  have hlast : w.client.eventScript.last = c.eventScript.last := by rw [hw.script]; rfl
  exact congrArg (Script.mk _) hlast

/-- **Reading a page**: its lines are handed out, and then its token
decides. -/
theorem readPages_page (hq : c.eventScript.IsQuiet) (hw : At c i w) (h : IsPage (answerAt c i)) :
    ∃ w', At c (i + 1) w' ∧
      readPages b src (n + 1) (sentAt c i) lines w = Stretch.after (pageEvents src c i)
        (match continuation src (sentAt c i) (answerAt c i).entries with
          | .error f => Stretch.stop f w'
          | .ok (some token) =>
            readPages b src n (some token) (lines + (messages (answerAt c i)).length) w'
          | .ok none =>
            Stretch.happen
              [closingNote src (lines + (messages (answerAt c i)).length) (i + 1)] w') := by
  obtain ⟨w', hscript, hpages, heq⟩ := readPages_answer b src n lines hq hw (sentAt c i)
  obtain ⟨page, found, ho, hfound, hmembers⟩ := h
  obtain ⟨hlines, hfault⟩ := pageLines_of_hasMembers hmembers
  have hentries : (answerAt c i).entries = page := by simp [Answer.entries, ho]
  have hevents : eventsOf (answerAt c i) = found := by simp [eventsOf, hentries, hfound]
  have hmessages : messages (answerAt c i) = pageLines found := by rw [messages, hevents, hlines]
  refine ⟨{ w' with pages := i + 1 }, ⟨hscript, rfl⟩, ?_⟩
  rw [heq, Stretch.proceed_ok ho, readAnswer, Stretch.happen_andThen, hpages, hentries]
  simp only [Stretch.members?, readPage, hfound, hfault]
  rw [show (⟨_, none, _⟩ : Stretch) = Stretch.happen _ _ from rfl, Stretch.happen_andThen,
    Stretch.after_after, Stretch.after_after, ← hmessages, hevents.symm]
  rfl

/-- A page that goes on is followed by the request for the next one. -/
theorem readPages_goesOn (hq : c.eventScript.IsQuiet) (hw : At c i w) (h : GoesOn c i) :
    ∃ w', At c (i + 1) w' ∧
      readPages b src (n + 1) (sentAt c i) lines w = Stretch.after (pageEvents src c i)
        (readPages b src n (sentAt c (i + 1)) (lines + (messages (answerAt c i)).length) w') := by
  obtain ⟨hpage, htoken, hany⟩ := h
  obtain ⟨w', hw', heq⟩ := readPages_page b src n lines hq hw hpage
  have hnext : continuation src (sentAt c i) (answerAt c i).entries =
      .ok (some (tokenOf (answerAt c i))) := by
    unfold tokenOf at htoken hany ⊢
    simp [continuation, htoken, hany]
  rw [hnext] at heq
  exact ⟨w', hw', heq⟩

/-- The page that ends the stream is the last event but for a notice. -/
theorem readPages_ends (hq : c.eventScript.IsQuiet) (hw : At c i w) (h : Ends c i) :
    ∃ w', readPages b src (n + 1) (sentAt c i) lines w =
      Stretch.after (pageEvents src c i) (Stretch.happen
        [closingNote src (lines + (messages (answerAt c i)).length) (i + 1)] w') := by
  obtain ⟨hpage, htoken, sent, hsent, hsame⟩ := h
  obtain ⟨w', -, heq⟩ := readPages_page b src n lines hq hw hpage
  have hnext : continuation src (sentAt c i) (answerAt c i).entries = .ok none := by
    unfold tokenOf at htoken hsame
    simp [continuation, htoken, hsent, hsame]
  rw [hnext] at heq
  exact ⟨w', heq⟩

/-- Nothing follows a page without a token. -/
theorem readPages_noToken (hq : c.eventScript.IsQuiet) (hw : At c i w)
    (h : IsPage (answerAt c i)) (htoken : (tokenOf (answerAt c i)).isTruthy = false) :
    ∃ w', readPages b src (n + 1) (sentAt c i) lines w = Stretch.after (pageEvents src c i)
      (Stretch.stop (.destination (.noForwardToken src.group)) w') := by
  obtain ⟨w', -, heq⟩ := readPages_page b src n lines hq hw h
  have hnext : continuation src (sentAt c i) (answerAt c i).entries =
      .error (.destination (.noForwardToken src.group)) := by
    unfold tokenOf at htoken
    simp [continuation, htoken]
  rw [hnext] at heq
  exact ⟨w', heq⟩

/-- Nothing follows a request that fails. -/
theorem readPages_failed {e : CallError} (hq : c.eventScript.IsQuiet) (hw : At c i w)
    (h : (answerAt c i).outcome = .error e) :
    ∃ w', readPages b src (n + 1) (sentAt c i) lines w =
      Stretch.after [.called (.getLogEvents src.group src.stream (sentAt c i))]
        (Stretch.stop (Stretch.errorFault (description src) e) w') := by
  obtain ⟨w', -, -, heq⟩ := readPages_answer b src n lines hq hw
    (sentAt c i)
  rw [Stretch.proceed_error h] at heq
  exact ⟨w', heq⟩

/-- Nothing follows an answer that is no page. -/
theorem readPages_misshapen {v : Value} (hq : c.eventScript.IsQuiet) (hw : At c i w)
    (ho : (answerAt c i).outcome = .ok v) (h : ¬ IsPage (answerAt c i)) :
    ∃ es f w', readPages b src (n + 1) (sentAt c i) lines w = ⟨es, some f, w'⟩ ∧
      es.filterMap Event.request? = [.getLogEvents src.group src.stream (sentAt c i)] ∧
      es.filterMap Event.sleep? = [] := by
  obtain ⟨w', -, -, heq⟩ := readPages_answer b src n lines hq hw
    (sentAt c i)
  obtain ⟨es, f, w'', hstop, hr, hs⟩ := readAnswer_of_not_isPage src lines (sentAt c i)
    (fun token lines w => readPages b src n (some token) lines w) w' ho h
  rw [Stretch.proceed_ok ho, hstop] at heq
  refine ⟨_, f, w'', heq, ?_, ?_⟩
  · rw [List.filterMap_append, hr]; rfl
  · rw [List.filterMap_append, hs]; rfl

/-! ## Reading the stream -/

/-- **A traversal up to a page**, when all the pages before it go on. -/
theorem readPages_run (hq : c.eventScript.IsQuiet) (h : ∀ j < i, GoesOn c j) :
    ∃ w, At c i w ∧ readPages b src (i + n) none 0 (World.start c) =
      Stretch.after ((List.range i).flatMap (pageEvents src c))
        (readPages b src n (sentAt c i) (yielded c i).length w) := by
  induction i generalizing n with
  | zero => exact ⟨World.start c, ⟨rfl, rfl⟩, by rw [Nat.zero_add]; rfl⟩
  | succ i ih =>
    obtain ⟨w, hw, heq⟩ := ih (n + 1) fun j hj => h j (by omega)
    obtain ⟨w', hw', hstep⟩ := readPages_goesOn b src n (yielded c i).length hq hw (h i (by omega))
    refine ⟨w', hw', ?_⟩
    rw [show i + 1 + n = i + (n + 1) by omega, heq, hstep, Stretch.after_after, yielded_succ,
      List.length_append, List.range_succ, List.flatMap_append]
    simp

/-- **The first answer that does not go on**, before which the traversal
has read every page. -/
theorem exists_read_run (hq : c.eventScript.IsQuiet) :
    ∃ k n w, (∀ i < k, GoesOn c i) ∧ ¬ GoesOn c k ∧ At c k w ∧
      read b src (World.start c) = Stretch.after ((List.range k).flatMap (pageEvents src c))
        (readPages b src (n + 1) (sentAt c k) (yielded c k).length w) := by
  classical
  have hex : ∃ k, ¬ GoesOn c k := ⟨c.events.length, fun h => Nat.lt_irrefl _ h.lt_length⟩
  have hturns : ∀ i < Nat.find hex, GoesOn c i := fun i hi => not_not.1 (Nat.find_min hex hi)
  have hle : Nat.find hex ≤ c.events.length :=
    Nat.find_min' hex fun h => Nat.lt_irrefl _ h.lt_length
  obtain ⟨n, hn⟩ := Nat.exists_eq_add_of_le hle
  obtain ⟨w, hw, heq⟩ := readPages_run b src (n + 1) hq hturns
  refine ⟨Nat.find hex, n, w, hturns, Nat.find_spec hex, hw, ?_⟩
  rw [← heq, ← Nat.add_assoc, ← hn]
  rfl

/-! ## What is seen of the stream -/

variable {src : LogStream}

/-- **How a log stream is read**, when the answer `k` is the first one
that does not go on. -/
structure Traversed (src : LogStream) (c : Client) (k : Nat) (s : Stretch) : Prop where
  goesOn : ∀ i < k, GoesOn c i
  halts : ¬ GoesOn c k
  /-- Every request carries the token of the answer before it, and none is
  made after the answer `k`. -/
  requests : s.requests =
    (List.range (k + 1)).map fun i => .getLogEvents src.group src.stream (sentAt c i)
  sleeps : s.sleeps = []
  /-- The traversal ends without a fault where the token that was sent
  comes back, and nowhere else. -/
  ends : s.fault = none ↔ Ends c k
  /-- The last page hands out its messages, whatever its token. -/
  page : IsPage (answerAt c k) → s.lines = yielded c (k + 1) ∧ s.pages = k + 1
  counted : s.events.countP Event.isLine = s.lines.length
  closing : Ends c k → s.events.getLast? = some (closingNote src s.lines.length s.pages)
  noToken : IsPage (answerAt c k) → (tokenOf (answerAt c k)).isTruthy = false →
    s.fault = some (.destination (.noForwardToken src.group))
  /-- A request that fails adds nothing to the answers before it. -/
  failed : ∀ e, (answerAt c k).outcome = .error e →
    s.lines = yielded c k ∧ s.pages = k ∧ s.fault = some (Stretch.errorFault (description src) e)
  /-- An error of the service or of the transport is the destination's. -/
  refused : ∀ e, (answerAt c k).outcome = .error e → e.judge = .failed →
    s.fault = some (.destination (.call (.failed (description src) e)))

/-- A traversal whose last answer is a page, by what follows the page. -/
theorem traversed_of_page {k : Nat} {s t : Stretch} (hturns : ∀ i < k, GoesOn c i)
    (hhalts : ¬ GoesOn c k) (hpage : IsPage (answerAt c k))
    (hs : s = Stretch.after ((List.range (k + 1)).flatMap (pageEvents src c)) t)
    (hlines : t.lines = []) (hrequests : t.requests = []) (hsleeps : t.sleeps = [])
    (hpages : t.pages = 0) (hends : t.fault = none ↔ Ends c k)
    (hclosing : Ends c k →
      t.events.getLast? = some (closingNote src (yielded c (k + 1)).length (k + 1)))
    (hnoToken : (tokenOf (answerAt c k)).isTruthy = false →
      t.fault = some (.destination (.noForwardToken src.group))) :
    Traversed src c k s := by
  have hlines' : s.lines = yielded c (k + 1) := by
    rw [hs, Stretch.lines_after, lines_pages, hlines, List.append_nil]
  have hpages' : s.pages = k + 1 := by rw [hs, Stretch.pages_after, pages_pages, hpages]
  exact {
    goesOn := hturns
    halts := hhalts
    requests := by rw [hs, Stretch.requests_after, requests_pages, hrequests, List.append_nil]
    sleeps := by rw [hs, Stretch.sleeps_after, sleeps_pages, hsleeps, List.append_nil]
    ends := by rw [hs, Stretch.after_fault, hends]
    page := fun _ => ⟨hlines', hpages'⟩
    counted := Stretch.countP_isLine
    closing := fun h => by
      rw [hlines', hpages', hs, Stretch.after_events, List.getLast?_append, hclosing h]
      rfl
    noToken := fun _ h => by rw [hs, Stretch.after_fault, hnoToken h]
    failed := fun e he => absurd he (hpage.outcome_ne e)
    refused := fun e he => absurd he (hpage.outcome_ne e) }

/-- A traversal whose last answer is no page, by what follows the pages. -/
theorem traversed_of_not_isPage {k : Nat} {s t : Stretch} {f : TraversalFault}
    (hturns : ∀ i < k, GoesOn c i) (hpage : ¬ IsPage (answerAt c k))
    (hs : s = Stretch.after ((List.range k).flatMap (pageEvents src c)) t)
    (hrequests : t.requests = [.getLogEvents src.group src.stream (sentAt c k)])
    (hsleeps : t.sleeps = []) (hfault : t.fault = some f)
    (hfailed : ∀ e, (answerAt c k).outcome = .error e →
      t.lines = [] ∧ t.pages = 0 ∧ f = Stretch.errorFault (description src) e) :
    Traversed src c k s where
  goesOn := hturns
  halts := fun h => hpage h.1
  requests := by
    rw [hs, Stretch.requests_after, requests_pages, hrequests, List.range_succ, List.map_append]
    rfl
  sleeps := by rw [hs, Stretch.sleeps_after, sleeps_pages, hsleeps, List.append_nil]
  ends := by
    rw [hs, Stretch.after_fault, hfault]
    exact ⟨fun h => (by cases h), fun h => absurd h.1 hpage⟩
  page := fun h => absurd h hpage
  counted := Stretch.countP_isLine
  closing := fun h => absurd h.1 hpage
  noToken := fun h => absurd h hpage
  failed := fun e he => by
    obtain ⟨hlines, hpages, rfl⟩ := hfailed e he
    rw [hs, Stretch.lines_after, lines_pages, hlines, Stretch.pages_after, pages_pages, hpages,
      Stretch.after_fault, hfault, List.append_nil]
    exact ⟨rfl, rfl, rfl⟩
  refused := fun e he hjudge => by
    obtain ⟨-, -, rfl⟩ := hfailed e he
    rw [hs, Stretch.after_fault, hfault, Stretch.errorFault, hjudge]

/-- **A stream that comes to an end** is read without a fault, and its
lines are the messages of its pages. -/
theorem read_of_ends {k : Nat} (b : RetryBudget Float) (src : LogStream)
    (hq : c.eventScript.IsQuiet) (hturns : ∀ i < k, GoesOn c i) (hends : Ends c k) :
    (read b src (World.start c)).fault = none ∧
      (read b src (World.start c)).lines = yielded c (k + 1) := by
  obtain ⟨k', n, w, hturns', hhalts, hw, heq⟩ := exists_read_run b src hq
  obtain rfl : k' = k := by
    refine Nat.le_antisymm ?_ ?_
    · exact Nat.le_of_not_lt fun hlt => hends.not_goesOn (hturns' k hlt)
    · exact Nat.le_of_not_lt fun hlt => hhalts (hturns k' hlt)
  obtain ⟨w', hlast⟩ := readPages_ends b src n (yielded c k').length hq hw hends
  rw [heq, hlast]
  refine ⟨rfl, ?_⟩
  rw [Stretch.lines_after, Stretch.lines_after, lines_pages, yielded_succ]
  change yielded c k' ++ ((pageEvents src c k').filterMap Event.line? ++ []) = _
  rw [lines_pageEvents, List.append_nil]

/-- **The cursor protocol.** Whatever a service answers without
throttling, a log stream is read page by page, each request with the
token of the answer before it, up to the answer whose token was sent or
the first one that does not go on. -/
theorem cursor_protocol (b : RetryBudget Float) (src : LogStream) (c : Client)
    (hq : c.eventScript.IsQuiet) : ∃ k, Traversed src c k (read b src (World.start c)) := by
  obtain ⟨k, n, w, hturns, hhalts, hw, heq⟩ := exists_read_run b src hq
  refine ⟨k, ?_⟩
  by_cases hpage : IsPage (answerAt c k)
  · have hevents : (List.range (k + 1)).flatMap (pageEvents src c) =
        (List.range k).flatMap (pageEvents src c) ++ pageEvents src c k := by
      rw [List.range_succ, List.flatMap_append, List.flatMap_singleton]
    rcases hpage.cases with hgoes | hends | htoken
    · exact absurd hgoes hhalts
    · obtain ⟨w', hlast⟩ := readPages_ends b src n (yielded c k).length hq hw hends
      rw [hlast, Stretch.after_after, ← hevents] at heq
      refine traversed_of_page hturns hhalts hpage heq rfl rfl rfl rfl ?_ ?_ ?_
      · exact ⟨fun _ => hends, fun _ => rfl⟩
      · intro _
        rw [yielded_succ, List.length_append]
        rfl
      · intro htoken
        rw [hends.2.1] at htoken
        cases htoken
    · obtain ⟨w', hlast⟩ := readPages_noToken b src n (yielded c k).length hq hw hpage htoken
      rw [hlast, Stretch.after_after, ← hevents] at heq
      have hends : ¬ Ends c k := fun h => absurd h.2.1 (by simp [htoken])
      refine traversed_of_page hturns hhalts hpage heq rfl rfl rfl rfl ?_ ?_ fun _ => rfl
      · exact ⟨fun h => (by cases h), fun h => absurd h hends⟩
      · exact fun h => absurd h hends
  · cases ho : (answerAt c k).outcome with
    | ok v =>
      obtain ⟨es, f, w', hlast, hr, hs⟩ :=
        readPages_misshapen b src n (yielded c k).length hq hw ho hpage
      rw [hlast] at heq
      refine traversed_of_not_isPage hturns hpage heq hr hs rfl fun e he => ?_
      rw [ho] at he
      cases he
    | error e =>
      obtain ⟨w', hlast⟩ := readPages_failed b src n (yielded c k).length hq hw ho
      rw [hlast] at heq
      refine traversed_of_not_isPage hturns hpage heq rfl rfl rfl fun e' he' => ?_
      rw [ho] at he'
      cases he'
      exact ⟨rfl, rfl, rfl⟩

end LogStream

/-! ## A stream of three pages

A message, an empty one and an event without one; a page without events;
and the last page, which brings back the token that was sent. -/

namespace LogStream.ThreePages

local instance : Bounds := .usual

/-- A log event with this message. -/
def event (message : String) : Value := .mapping [(.ofString "message", .ofString message)]

/-- The answer of a page with these log events, and its token. -/
def page (found : List Value) (token : String) : Answer Float Value :=
  ⟨0.0, .ok (.mapping
    [(.ofString "events", .list found), (.ofString "nextForwardToken", .ofString token)])⟩

/-- The client with the three pages. -/
def client : Client :=
  .ofScripts [] [page [event "10000000_", event "", .mapping []] "f/1", page [] "f/2",
    page [event "10000001_"] "f/2"] []

/-- The stream that is read. -/
def stream : LogStream := ⟨"group", "stream"⟩

theorem client_isQuiet : client.eventScript.IsQuiet :=
  ⟨by simp [client, Client.ofScripts, Client.eventScript, page], by decide +kernel⟩

/-- The three pages are read to their end. -/
theorem read_threePages : client.eventScript.IsQuiet ∧
    (read ⟨1.0, 0, 0.0⟩ stream (World.start client)).fault.isNone = true ∧
    (read ⟨1.0, 0, 0.0⟩ stream (World.start client)).pages = 3 ∧
    ∃ k, Ends client k ∧ Traversed stream client k
      (read ⟨1.0, 0, 0.0⟩ stream (World.start client)) := by
  have hfault : (read ⟨1.0, 0, 0.0⟩ stream (World.start client)).fault.isNone = true := by
    decide +kernel
  obtain ⟨k, h⟩ := cursor_protocol ⟨1.0, 0, 0.0⟩ stream client client_isQuiet
  exact ⟨client_isQuiet, hfault, by decide +kernel, k,
    h.ends.1 (Option.isNone_iff_eq_none.1 hfault), h⟩

end LogStream.ThreePages

end DeliveryAudit
