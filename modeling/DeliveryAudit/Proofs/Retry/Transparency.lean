import DeliveryAudit.Proofs.Audit.Counting
import DeliveryAudit.Proofs.Retry.Repeats
import DeliveryAudit.Proofs.Retry.Throttled
/-!
# Repeating calls changes nothing else

A reader is run twice: with a client that never throttles, and with the
same client throttled no more than the budget stands. Step by step the
second traversal is the first one with repetitions of calls (`Mimics`),
and every repetition uses up one throttling answer. What is handed out,
how the traversal ends and what is counted stay the same, and so does
what an audit makes of it.
-/

namespace DeliveryAudit

/-- Two states that go on alike, the second with a throttled client. -/
structure World.Throttled [Bounds] (b : RetryBudget Float) (w w' : World) : Prop where
  quiet : w.client.IsQuiet
  client : w.client.Throttled b w'.client
  pages : w'.pages = w.pages
  objects : w'.objects = w.objects

/-- Such states, with fewer answers of a kind left than so many pages may
be asked for. -/
structure World.Within [Bounds] (b : RetryBudget Float)
    (answers : Client → List (Answer Float Value)) (k k' : Nat) (w w' : World) : Prop extends World.Throttled b w w' where
  left : (answers w.client).length < k
  left' : (answers w'.client).length < k'

namespace Stretch

variable [Bounds]

/-- **The second stretch mimics the first.** It is the first one with
repetitions, ends with the same fault, and goes on in a related state. Of
the `k` throttling answers at its start it uses up one with every
repetition. -/
structure Mimics (b : RetryBudget Float) (k : Nat) (R : World → World → Prop)
    (s s' : Stretch) : Prop where
  repeats : ∃ n, Repeats b (fun _ => True) n s.events s'.events ∧ k = n + s'.world.client.throttles
  fault : s'.fault = s.fault
  world : s.fault = .none → R s.world s'.world

variable {b : RetryBudget Float} {k : Nat} {R Q : World → World → Prop} {w w' : World}
variable {s s' : Stretch}

/-- Events that are no calls happen alike, whatever fault ends them. -/
theorem mimics_plain {es : List Event} {f : Option TraversalFault}
    (hr : es.filterMap Event.request? = []) (hs : es.filterMap Event.sleep? = [])
    (h : f = .none → R w w') (hk : k = w'.client.throttles) :
    Mimics b k R ⟨es, f, w⟩ ⟨es, f, w'⟩ where
  repeats := ⟨0, .of_eventless hr hs, by rw [Nat.zero_add]; exact hk⟩
  fault := rfl
  world := h

theorem mimics_happen (es : List Event) (hr : es.filterMap Event.request? = [])
    (hs : es.filterMap Event.sleep? = []) (h : R w w') (hk : k = w'.client.throttles) :
    Mimics b k R (happen es w) (happen es w') :=
  mimics_plain hr hs (fun _ => h) hk

/-- A traversal that stops does so alike. -/
theorem mimics_stop {f : TraversalFault} (hk : k = w'.client.throttles) :
    Mimics b k R (stop f w) (stop f w') :=
  mimics_plain rfl rfl (fun h => by cases h) hk

/-- **Mimicry goes on**: what follows mimics what follows. -/
theorem Mimics.andThen {next next' : World → Stretch} (h : Mimics b k R s s')
    (hnext : ∀ v v', R v v' → Mimics b v'.client.throttles Q (next v) (next' v')) :
    Mimics b k Q (s.andThen next) (s'.andThen next') := by
  obtain ⟨⟨n, hn, hk⟩, hfault, hworld⟩ := h
  obtain ⟨events, fault, world⟩ := s
  obtain ⟨events', fault', world'⟩ := s'
  cases hfault
  cases fault with
  | some f => exact ⟨⟨n, hn, hk⟩, rfl, fun h => by cases h⟩
  | none =>
    obtain ⟨⟨m, hm, hk'⟩, hfault', hworld'⟩ := hnext _ _ (hworld rfl)
    exact ⟨⟨n + m, hn.append hm, by simp only [hk, hk', Nat.add_assoc]; rfl⟩, hfault', hworld'⟩

/-- **A call is mimicked** by the same call on a throttled script. -/
theorem mimics_call {α : Type} {description : String} {r : Request} {script script' : Script α}
    {leave leave' : List (Answer Float α) → Client} {next next' : α → World → Stretch}
    (htime : Time.isZero b.maxDuration = true) (hq : script.IsQuiet)
    (hs : script.Throttled b script')
    (hk : k = script'.waits + (leave' script'.rest.answers).throttles)
    (hnext : ∀ v, script.next.outcome = .ok v → ∀ t t',
      Mimics b (leave' script'.rest.answers).throttles R
        (next v { w with client := leave script.rest.answers, clock := t })
        (next' v { w' with client := leave' script'.rest.answers, clock := t' })) :
    Mimics b k R (call b description r w script leave next)
      (call b description r w' script' leave' next') := by
  have hnext' : script'.next = script.next := hs.next_eq hq
  have hpatient : b.IsPatient script' := ⟨by rw [hnext']; exact hq.next_settles,
    fun n _ hn elapsed => (hs.stands_waits hq).not_exhausted htime hn⟩
  obtain ⟨t, ht⟩ := call_of_isQuiet b description r w leave next hq
  obtain ⟨t', ht'⟩ := call_of_isPatient description r w' leave' next' hpatient
  rw [ht, ht', hnext']
  have hcall : ∀ {s s' : Stretch}, Mimics b (leave' script'.rest.answers).throttles R s s' →
      Mimics b k R (after [.called r] s)
        (after (attemptEvents b description r (script'.waits + 1)) s') := by
    rintro s s' ⟨⟨n, hn, hkn⟩, hfault, hworld⟩
    refine ⟨⟨script'.waits + n, .call description (fun _ => trivial) hn, ?_⟩, hfault, hworld⟩
    rw [hk, hkn, Nat.add_assoc]
    rfl
  apply hcall
  cases ho : script.next.outcome with
  | ok v =>
    rw [proceed_ok ho, proceed_ok ho]
    exact hnext v ho t t'
  | error e =>
    rw [proceed_error ho, proceed_error ho]
    exact mimics_stop rfl

end Stretch

/-- A script whose last answer is an error gives a value only by using up
an answer. -/
theorem Script.length_rest_lt [Bounds] {α : Type} {s : Script α} {v : α} {e : CallError}
    (hv : s.next.outcome = .ok v) (hlast : s.last.outcome = .error e) :
    s.rest.answers.length < s.answers.length := by
  have hle := (List.dropWhile_suffix (l := s.answers) Answer.isThrottled).length_le
  unfold Script.next at hv
  unfold Script.rest
  cases hd : s.answers.dropWhile Answer.isThrottled with
  | nil =>
    rw [hd, List.headD_nil, hlast] at hv
    cases hv
  | cons a as =>
    rw [hd, List.length_cons] at hle
    exact hle

open Stretch

variable {b : RetryBudget Float} {k k' : Nat} {w w' : World}

namespace Bucket

variable {src : Bucket}
variable [Bounds]

theorem mimics_readBody (key : Value) (body : Body) (h : World.Within b Client.listings k k' w w') :
    Mimics b w'.client.throttles (World.Within b Client.listings k k') (readBody key body w)
      (readBody key body w') := by
  unfold readBody
  have hw : World.Within b Client.listings k k' { w with objects := w.objects + 1 }
      { w' with objects := w'.objects + 1 } := { h with objects := by rw [h.objects] }
  refine (mimics_happen [.object] rfl rfl hw rfl).andThen fun v v' hv => ?_
  cases objectLines (keyText key) body with
  | error f => exact mimics_stop rfl
  | ok ls =>
    refine mimics_happen _ ?_ ?_ hv rfl
    · rw [List.filterMap_map]; exact List.filterMap_eq_nil_iff.2 fun _ _ => rfl
    · rw [List.filterMap_map]; exact List.filterMap_eq_nil_iff.2 fun _ _ => rfl

/-- **Reading an object is mimicked.** -/
theorem mimics_readObject (htime : Time.isZero b.maxDuration = true) (key : Value)
    (h : World.Within b Client.listings k k' w w') :
    Mimics b w'.client.throttles (World.Within b Client.listings k k') (readObject b src key w)
      (readObject b src key w') := by
  unfold readObject
  split
  · refine mimics_call htime (h.quiet.objects key) (h.client.objects key)
      (Client.throttles_leave key) fun body _ t t' => ?_
    have hleft := congrArg (fun s => s.answers.length)
      (Bucket.listingScript_leave (c := w.client) (Bucket.scriptOf w.client key).rest.answers key)
    have hleft' := congrArg (fun s => s.answers.length)
      (Bucket.listingScript_leave (c := w'.client) (Bucket.scriptOf w'.client key).rest.answers key)
    have hw : World.Within b Client.listings k k'
        { w with client := leave w.client (scriptOf w.client key).rest.answers key, clock := t }
        { w' with
          client := leave w'.client (scriptOf w'.client key).rest.answers key
          clock := t' } :=
      { quiet := h.quiet.leave key
        client := h.client.leave h.quiet key
        pages := h.pages
        objects := h.objects
        left := Nat.lt_of_le_of_lt (Nat.le_of_eq hleft) h.left
        left' := Nat.lt_of_le_of_lt (Nat.le_of_eq hleft') h.left' }
    exact mimics_readBody key body hw
  · rw [happen_andThen, happen_andThen]
    exact ⟨⟨0, .call (k := 0) "" (fun _ => trivial) .nil, by rw [Nat.zero_add]; rfl⟩, rfl,
      fun h => by cases h⟩

/-- **Reading the objects of a page is mimicked.** -/
theorem mimics_readObjects (htime : Time.isZero b.maxDuration = true) (os : List Value)
    (h : World.Within b Client.listings k k' w w') :
    Mimics b w'.client.throttles (World.Within b Client.listings k k') (readObjects b src os w)
      (readObjects b src os w') := by
  induction os generalizing w w' with
  | nil => exact mimics_happen _ rfl rfl h rfl
  | cons o os ih =>
    rw [readObjects, readObjects]
    cases key? o with
    | error f => exact mimics_stop rfl
    | ok key => exact (mimics_readObject htime key h).andThen fun v v' hv => ih hv

/-- **Reading a page is mimicked**, where the pages after it are. -/
theorem mimics_readAnswer (htime : Time.isZero b.maxDuration = true)
    {next next' : Value → World → Stretch} (answer : Value)
    (hnext : ∀ token v v', World.Within b Client.listings k k' v v' →
      Mimics b v'.client.throttles (World.Throttled b) (next token v) (next' token v'))
    (h : World.Within b Client.listings k k' w w') :
    Mimics b w'.client.throttles (World.Throttled b) (readAnswer b src next answer w)
      (readAnswer b src next' answer w') := by
  unfold readAnswer
  have hw : World.Within b Client.listings k k' { w with pages := w.pages + 1 }
      { w' with pages := w'.pages + 1 } := { h with pages := by rw [h.pages] }
  refine (mimics_happen [.page] rfl rfl hw rfl).andThen fun v v' hv => ?_
  cases members? answer with
  | error f => exact mimics_stop rfl
  | ok page =>
    simp only [readPage]
    cases contents page with
    | error f => exact mimics_stop rfl
    | ok objects =>
      simp only [hv.pages]
      refine (mimics_happen [_] rfl rfl hv rfl).andThen fun u u' hu =>
         (mimics_readObjects htime objects hu).andThen fun u u' hu => ?_
      cases continuation src page with
      | error f => exact mimics_stop rfl
      | ok token? =>
        cases token? with
        | some token => exact hnext token u u' hu
        | none =>
          simp only [hu.objects]
          exact mimics_happen _ rfl rfl hu.toThrottled rfl

/-- **Reading the pages of a listing is mimicked.** -/
theorem mimics_readPages (htime : Time.isZero b.maxDuration = true) (token : Option Value)
    (h : World.Within b Client.listings k k' w w') :
    Mimics b w'.client.throttles (World.Throttled b) (readPages b src k token w)
      (readPages b src k' token w') := by
  induction k generalizing k' token w w' with
  | zero => exact absurd h.left (Nat.not_lt_zero _)
  | succ k ih =>
    cases k' with
    | zero => exact absurd h.left' (Nat.not_lt_zero _)
    | succ k' =>
      rw [readPages, readPages]
      have hlast := (h.client.listings.next_eq h.quiet.listings).symm
      refine mimics_call htime h.quiet.listings h.client.listings Client.throttles_leave_listings
        fun answer ho t t' => ?_
      have hleft := Script.length_rest_lt ho (e := w.client.afterwards "ListObjectsV2") rfl
      have hleft' := Script.length_rest_lt (hlast ▸ ho)
        (e := w'.client.afterwards "ListObjectsV2") rfl
      have hw : World.Within b Client.listings k k'
          { w with
            client := { w.client with listings := w.client.listingScript.rest.answers }
            clock := t }
          { w' with
            client := { w'.client with listings := w'.client.listingScript.rest.answers }
            clock := t' } :=
        { quiet := h.quiet.leave_listings
          client := h.client.leave_listings h.quiet
          pages := h.pages
          objects := h.objects
          left := Nat.lt_of_lt_of_le hleft (Nat.le_of_lt_succ h.left)
          left' := Nat.lt_of_lt_of_le hleft' (Nat.le_of_lt_succ h.left') }
      exact mimics_readAnswer htime answer (fun token v v' hv => ih (some token) hv) hw

end Bucket

namespace LogStream

variable {src : LogStream} {sent : Option Value} {lines : Nat}
variable [Bounds]

/-- **Reading a page is mimicked**, where the pages after it are. -/
theorem mimics_readAnswer {next next' : Value → Nat → World → Stretch} (answer : Value)
    (hnext : ∀ token n v v', World.Within b Client.events k k' v v' →
      Mimics b v'.client.throttles (World.Throttled b) (next token n v) (next' token n v'))
    (h : World.Within b Client.events k k' w w') :
    Mimics b w'.client.throttles (World.Throttled b) (readAnswer src sent lines next answer w)
      (readAnswer src sent lines next' answer w') := by
  unfold readAnswer
  have hw : World.Within b Client.events k k' { w with pages := w.pages + 1 }
      { w' with pages := w'.pages + 1 } := { h with pages := by rw [h.pages] }
  refine (mimics_happen [.page] rfl rfl hw rfl).andThen fun v v' hv => ?_
  cases members? answer with
  | error f => exact mimics_stop rfl
  | ok page =>
    simp only [readPage]
    cases events page with
    | error f => exact mimics_stop rfl
    | ok found =>
      simp only [hv.pages]
      refine (mimics_plain (R := World.Within b Client.events k k') ?_ ?_ (fun _ => hv)
        rfl).andThen fun u u' hu => ?_
      · rw [List.filterMap_cons_none rfl, List.filterMap_map]
        exact List.filterMap_eq_nil_iff.2 fun _ _ => rfl
      · rw [List.filterMap_cons_none rfl, List.filterMap_map]
        exact List.filterMap_eq_nil_iff.2 fun _ _ => rfl
      · cases continuation src sent page with
        | error f => exact mimics_stop rfl
        | ok token? =>
          cases token? with
          | some token => exact hnext token _ u u' hu
          | none =>
            simp only [hu.pages]
            exact mimics_happen _ rfl rfl hu.toThrottled rfl

/-- **Reading the pages of a log stream is mimicked.** -/
theorem mimics_readPages (htime : Time.isZero b.maxDuration = true) (token : Option Value)
    (n : Nat) (h : World.Within b Client.events k k' w w') :
    Mimics b w'.client.throttles (World.Throttled b) (readPages b src k token n w)
      (readPages b src k' token n w') := by
  induction k generalizing k' token n w w' with
  | zero => exact absurd h.left (Nat.not_lt_zero _)
  | succ k ih =>
    cases k' with
    | zero => exact absurd h.left' (Nat.not_lt_zero _)
    | succ k' =>
      rw [readPages, readPages]
      have hlast := (h.client.events.next_eq h.quiet.events).symm
      refine mimics_call htime h.quiet.events h.client.events Client.throttles_leave_events
        fun answer ho t t' => ?_
      have hleft := Script.length_rest_lt ho (e := w.client.afterwards "GetLogEvents") rfl
      have hleft' := Script.length_rest_lt (hlast ▸ ho)
        (e := w'.client.afterwards "GetLogEvents") rfl
      have hw : World.Within b Client.events k k'
          { w with
            client := { w.client with events := w.client.eventScript.rest.answers }
            clock := t }
          { w' with
            client := { w'.client with events := w'.client.eventScript.rest.answers }
            clock := t' } :=
        { quiet := h.quiet.leave_events
          client := h.client.leave_events h.quiet
          pages := h.pages
          objects := h.objects
          left := Nat.lt_of_lt_of_le hleft (Nat.le_of_lt_succ h.left)
          left' := Nat.lt_of_lt_of_le hleft' (Nat.le_of_lt_succ h.left') }
      exact mimics_readAnswer answer (fun token n v v' hv => ih (some token) n hv) hw

end LogStream

/-- **A traversal is mimicked** by the traversal of the reader with a
throttled client. -/
theorem Reader.mimics_traverse [Bounds] {r r' : Reader}
    (hdestination : r'.destination = r.destination) (hbudget : r'.budget = r.budget)
    (htime : Time.isZero r.budget.maxDuration = true) (hq : r.client.IsQuiet)
    (hc : r.client.Throttled r.budget r'.client) :
    Mimics r.budget r'.client.throttles (World.Throttled r.budget) r.traverse r'.traverse := by
  have hw : World.Throttled r.budget (World.start r.client) (World.start r'.client) :=
    ⟨hq, hc, rfl, rfl⟩
  unfold Reader.traverse
  rw [hdestination, hbudget]
  cases r.destination with
  | bucket src =>
    exact Bucket.mimics_readPages htime none
      { hw with left := Nat.lt_succ_self _, left' := Nat.lt_succ_self _ }
  | logStream src =>
    exact LogStream.mimics_readPages htime none 0
      { hw with left := Nat.lt_succ_self _, left' := Nat.lt_succ_self _ }

/-- **Throttling that the budget stands is transparent.** A reader whose
client is throttled, by a budget without a limit of time, hands out the
same lines, ends in the same way and counts the same pages and objects.
Its requests are those of the calm reader, each made once and then
repeated; every repetition follows one delay and uses up one throttling
answer. So an audit comes to the same tally and the same fault. -/
theorem Reader.throttling_transparent [Bounds] (r r' : Reader)
    (hdestination : r'.destination = r.destination) (hbudget : r'.budget = r.budget)
    (htime : Time.isZero r.budget.maxDuration = true) (hq : r.client.IsQuiet)
    (hc : r.client.Throttled r.budget r'.client) (roster : Roster) :
    let calm := r.traverse
    let throttled := r'.traverse
    throttled.lines = calm.lines ∧ throttled.fault = calm.fault ∧
      throttled.pages = calm.pages ∧ throttled.objects = calm.objects ∧
      (∃ times : List Nat, times.length = calm.requests.length ∧
        throttled.requests = Request.repeated calm.requests times ∧
        calm.sleeps = [] ∧ throttled.sleeps = List.replicate times.sum r.budget.delay ∧
        Repeats r.budget (fun _ => True) times.sum calm.events throttled.events ∧
        r'.client.throttles = times.sum + throttled.world.client.throttles) ∧
      (Audit.run r' roster).tally = (Audit.run r roster).tally ∧
      (Audit.run r' roster).fault = (Audit.run r roster).fault := by
  obtain ⟨⟨n, hn, hk⟩, hfault, -⟩ := Reader.mimics_traverse hdestination hbudget htime hq hc
  obtain ⟨times, hlen, hsum, -, hrequests⟩ := hn.requests_eq
  have haudit := Audit.ofTraversal_congr r.destination.enveloped hn.lines_eq hfault roster
  rw [← hdestination] at haudit
  refine ⟨hn.lines_eq, hfault, hn.pages_eq, hn.objects_eq, ⟨times, hlen, hrequests,
    hn.sleeps_eq.1, ?_, ?_, ?_⟩, ?_, ?_⟩
  · rw [hsum]; exact hn.sleeps_eq.2
  · rw [hsum]; exact hn
  · rw [hsum]; exact hk
  · rw [Audit.run, Audit.run, ← hdestination]; exact haudit.1
  · rw [Audit.run, Audit.run, ← hdestination]; exact haudit.2

/-! ## A run with throttling

Two pages of a bucket, the second of which is throttled twice, and an
object that is throttled once. -/

namespace ThrottledRun

local instance : Bounds := .usual

/-- A throttling answer that takes a quarter of a second. -/
def slowDown {α : Type} (operation : String) : Answer Float α :=
  ⟨0.25, .error (Client.refusal "SlowDown" "Please reduce your request rate." operation)⟩

/-- The answer of a listing with one object, and the token of the next. -/
def listing (key : String) (token : Option String) : Answer Float Value :=
  ⟨0.0, .ok (.mapping
    [(.ofString "Contents", .list [.mapping [(.ofString "Key", .ofString key)]]),
      (.ofString "IsTruncated", .bool token.isSome),
      (.ofString "NextContinuationToken", (token.map Value.ofString).getD .null)])⟩

/-- The answer of an object with one line. -/
def object : Answer Float Body :=
  ⟨0.0, .ok (.bytes "\x7b\"log\": \"10000000_\"\x7d\n".toUTF8.toList)⟩

/-- The client that does not throttle. -/
def calm : Client :=
  .ofScripts [listing "a" (some "next"), listing "b" none] []
    [(.ofString "a", [object]), (.ofString "b", [object])]

/-- The client that throttles. -/
def throttled : Client :=
  .ofScripts
    [listing "a" (some "next"), slowDown "ListObjectsV2", slowDown "ListObjectsV2",
      listing "b" none] []
    [(.ofString "a", [object]), (.ofString "b", [slowDown "GetObject", object])]

/-- Three attempts a call, half a second apart. -/
def budget : RetryBudget Float := ⟨0.5, 3, 0.0⟩

/-- The reader of the bucket by a client. -/
def reader (c : Client) : Reader := ⟨.bucket ⟨"logs", "run/"⟩, budget, c⟩

/-- The two clients answer for the same two objects, the second of which
the throttled one throttles. -/
theorem objectScript_eq (name : Text) :
    (calm.objectScript name = ⟨[], object⟩ ∧ (throttled.objectScript name = ⟨[], object⟩ ∨
      throttled.objectScript name = ⟨[slowDown "GetObject"], object⟩)) ∨
    (calm.objectScript name = ⟨[], ⟨0.0, .error calm.unknownObject⟩⟩ ∧
      throttled.objectScript name = ⟨[], ⟨0.0, .error calm.unknownObject⟩⟩) := by
  by_cases ha : name = .ofString "a"
  · subst ha
    exact Or.inl ⟨rfl, Or.inl rfl⟩
  · by_cases hb : name = .ofString "b"
    · subst hb
      exact Or.inl ⟨rfl, Or.inr rfl⟩
    · have hcalm : calm.objects.lookup name = .none := by
        simp [calm, Client.ofScripts, List.lookup_eq_none_iff, ha, hb]
      have hthrottled : throttled.objects.lookup name = .none := by
        simp [throttled, Client.ofScripts, List.lookup_eq_none_iff, ha, hb]
      refine Or.inr ⟨?_, ?_⟩
      · rw [Client.objectScript, hcalm]
      · rw [Client.objectScript, hthrottled]; rfl

theorem unknown_isQuiet : (⟨[], ⟨0.0, .error calm.unknownObject⟩⟩ : Script Body).IsQuiet :=
  ⟨by simp, by decide +kernel⟩

theorem stands_two {n : Nat} (h : n ≤ 2) : budget.Stands n := by
  refine Or.inr ?_
  change (n : Int) < 3
  omega

theorem calm_isQuiet : calm.IsQuiet where
  listings := ⟨by simp [calm, Client.ofScripts, Client.listingScript, listing], by decide +kernel⟩
  events := ⟨by simp [calm, Client.ofScripts, Client.eventScript], by decide +kernel⟩
  objects key := by
    cases key with
    | text t =>
      rcases objectScript_eq t with ⟨h, -⟩ | ⟨h, -⟩
      · rw [Bucket.scriptOf, h]; exact ⟨by simp, rfl⟩
      · rw [Bucket.scriptOf, h]; exact unknown_isQuiet
    | _ => exact unknown_isQuiet

theorem throttled_throttled : calm.Throttled budget throttled where
  listings := ⟨rfl, .answer [] (by simp) (stands_two (by decide))
    (.answer [slowDown "ListObjectsV2", slowDown "ListObjectsV2"] (by decide +kernel)
      (stands_two (by decide)) (.done (by simp) (stands_two (by decide))))⟩
  events := ⟨rfl, .done (by simp [throttled, Client.ofScripts, Client.eventScript])
    (stands_two (by decide))⟩
  objects key := by
    have hnone : ThrottledAnswers budget [] ([] : List (Answer Float Body)) :=
      .done (by simp) (stands_two (by decide))
    cases key with
    | text t =>
      rcases objectScript_eq t with ⟨h, h' | h'⟩ | ⟨h, h'⟩
      · rw [Bucket.scriptOf, Bucket.scriptOf, h, h']; exact ⟨rfl, hnone⟩
      · rw [Bucket.scriptOf, Bucket.scriptOf, h, h']
        exact ⟨rfl, .done (by decide +kernel) (stands_two (by decide))⟩
      · rw [Bucket.scriptOf, Bucket.scriptOf, h, h']; exact ⟨rfl, hnone⟩
    | _ => exact ⟨rfl, hnone⟩

/-- The roster of the one id that is delivered. -/
def roster : Roster := Roster.ofIds [Text.ofString "10000000"]

/-- The bucket that throttles is audited like the calm one, after three
delays. -/
theorem audit_throttled_eq_calm :
    Time.isZero budget.maxDuration = true ∧ calm.IsQuiet ∧ calm.Throttled budget throttled ∧
      (reader throttled).traverse.sleeps.length = 3 ∧
      (reader throttled).traverse.lines = (reader calm).traverse.lines ∧
      (Audit.run (reader throttled) roster).tally = (Audit.run (reader calm) roster).tally := by
  obtain ⟨hlines, -, -, -, -, htally, -⟩ := Reader.throttling_transparent (reader calm)
    (reader throttled) rfl rfl (by decide) calm_isQuiet throttled_throttled roster
  exact ⟨by decide, calm_isQuiet, throttled_throttled, by decide +kernel, hlines, htally⟩

end ThrottledRun

end DeliveryAudit
