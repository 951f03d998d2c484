import DeliveryAudit.Proofs.Destination.Objects
import DeliveryAudit.Proofs.Service.Entries
import Mathlib.Data.Nat.Find
/-!
# The listing of a bucket

The objects of a bucket are listed page by page, and the objects of a page
are read before the next one is asked for. The first request for a page
carries no token, and every other one the token of the page before it
(`sentAt`). A truncated page with a token turns to the next one
(`Turns`). By induction on the number of such pages, a traversal has read
all their objects, or an object of one of them has ended it (`readPages_run`).
-/

namespace DeliveryAudit

namespace Bucket

/-! ## What the answers say -/

/-- The answer to a request for a page of the listing, counted from 0. -/
def answerAt (c : Client) (i : Nat) : Answer Float Value := c.listingScript.answerAt i

/-- The token of an answer for the next page. -/
def tokenOf (a : Answer Float Value) : Value :=
  (Value.entry? "NextContinuationToken" a.entries).getD .null

/-- Whether an answer says that there is more to list. -/
def isTruncated (a : Answer Float Value) : Bool :=
  ((Value.entry? "IsTruncated" a.entries).getD .null).isTruthy

/-- The objects that an answer lists. -/
def objectsOf (a : Answer Float Value) : List Value :=
  match contents a.entries with
  | .ok os => os
  | .error _ => []

/-- Whether an answer is a page of a listing: a mapping whose contents, if
there are any, are objects with keys. -/
def IsListing (a : Answer Float Value) : Prop :=
  ∃ page os, a.outcome = .ok (.mapping page) ∧ contents page = .ok os ∧
    ∀ o ∈ os, ∃ t, key? o = .ok (.text t)

/-- The keys on a page. -/
def keysAt (c : Client) (i : Nat) : List Text := (objectsOf (answerAt c i)).map keyOf

/-- The keys on the first pages. -/
def listed (c : Client) (i : Nat) : List Text := (List.range i).flatMap (keysAt c)

/-- The token that a request for a page carries, counted from 0. -/
def sentAt (c : Client) : Nat → Option Value
  | 0 => none
  | i + 1 => some (tokenOf (answerAt c i))

/-- Whether a page turns to the next one: it is truncated and has a
token. -/
def Turns (c : Client) (i : Nat) : Prop :=
  IsListing (answerAt c i) ∧ isTruncated (answerAt c i) = true ∧
    (tokenOf (answerAt c i)).isTruthy = true

/-- The request for a page. -/
def listCall (src : Bucket) (c : Client) (i : Nat) : Request :=
  .listObjects src.name src.stem (sentAt c i)

/-- The requests for a page and then for its objects. -/
def pageCalls (src : Bucket) (c : Client) (i : Nat) : List Request :=
  listCall src c i :: (keysAt c i).map (getCall src)

/-- The requests for the first pages and all their objects, and then for
the next page and these objects. -/
def calls (src : Bucket) (c : Client) (i : Nat) (keys : List Text) : List Request :=
  (List.range i).flatMap (pageCalls src c) ++ listCall src c i :: keys.map (getCall src)

/-- What a call for a page is described as. -/
def description (src : Bucket) : String := "get the objects from bucket " ++ quoted src.name

/-- What happens before the objects of a page are read. -/
def headEvents (src : Bucket) (c : Client) (i : Nat) : List Event :=
  [.called (listCall src c i), .page,
    Stretch.note .debug ("Listing page " ++ toString (i + 1) ++ ": " ++
      toString (objectsOf (answerAt c i)).length ++ " objects")]

variable {b : RetryBudget Float} {src : Bucket} {c : Client} {i n : Nat} {w : World}
variable {before keys : List Text} {es : List Event}

theorem listed_succ : listed c (i + 1) = listed c i ++ keysAt c i := by
  simp [listed, List.range_succ]

/-- Only pages that the client has turn to the next one. -/
theorem Turns.lt_length (h : Turns c i) : i < c.listings.length := by
  obtain ⟨⟨page, os, ho, -⟩, -⟩ := h
  refine Nat.lt_of_not_le fun hle => ?_
  have hlast : answerAt c i = c.ended "ListObjectsV2" := by
    rw [answerAt, Script.answerAt, List.getD_eq_getElem?_getD,
      List.getElem?_eq_none (by exact hle)]
    rfl
  rw [hlast] at ho
  cases ho

/-- Every answer to a request for a page is an error or a page. -/
theorem listing_or_error
    (h : ∀ a ∈ c.listings, (∃ e, a.outcome = .error e) ∨ IsListing a) (i : Nat) :
    (∃ e, (answerAt c i).outcome = .error e) ∨ IsListing (answerAt c i) := by
  rw [answerAt, Script.answerAt, List.getD_eq_getElem?_getD]
  cases ha : c.listingScript.answers[i]? with
  | none => exact .inl ⟨_, rfl⟩
  | some a => exact h a (List.mem_of_getElem? ha)

/-- The keys on a page are among those on the first pages. -/
theorem exists_listed_eq {k : Nat} (h : i ≤ k) :
    ∃ rest, listed c (k + 1) = listed c i ++ (keysAt c i ++ rest) := by
  induction k, h using Nat.le_induction with
  | base => exact ⟨[], by rw [listed_succ, List.append_nil]⟩
  | succ k _ ih =>
    obtain ⟨rest, hrest⟩ := ih
    refine ⟨rest ++ keysAt c (k + 1), ?_⟩
    simp only [listed_succ (i := k + 1), hrest, List.append_assoc]

variable [Bounds]

/-- What happens at a page. -/
def pageEvents (src : Bucket) (c : Client) (i : Nat) : List Event :=
  headEvents src c i ++ objectsEvents src c (listed c i) (keysAt c i)

/-- What happens at the first pages and then at these objects of the
next. -/
def history (src : Bucket) (c : Client) (i : Nat) (keys : List Text) : List Event :=
  (List.range i).flatMap (pageEvents src c) ++
    (headEvents src c i ++ objectsEvents src c (listed c i) keys)

theorem history_keysAt :
    history src c i (keysAt c i) = (List.range (i + 1)).flatMap (pageEvents src c) := by
  rw [List.range_succ, List.flatMap_append, List.flatMap_singleton]
  rfl

/-! ## Reading a page -/

/-- A request for a page is answered by the answer at its place. -/
theorem readPages_answer (b : RetryBudget Float) (src : Bucket) (n : Nat)
    (hq : c.listingScript.IsQuiet) (hw : At c i before w)
    (token : Option Value) :
    ∃ w' : World, At c (i + 1) before { w' with pages := i + 1 } ∧ w'.pages = i ∧
      readPages b src (n + 1) token w =
        Stretch.after [.called (.listObjects src.name src.stem token)]
          (Stretch.proceed (description src)
            (readAnswer b src fun token w => readPages b src n (some token) w)
            (answerAt c i) w') := by
  rw [readPages, hw.listings]
  obtain ⟨t, ht⟩ := Stretch.call_of_isQuiet b (description src)
    (.listObjects src.name src.stem token) w (fun left => { w.client with listings := left })
    (readAnswer b src fun token w => readPages b src n (some token) w) (hq.skip i)
  rw [hq.next_skip, hq.rest_skip] at ht
  have hlast : w.client.listingScript.last = c.listingScript.last := by rw [hw.listings]; rfl
  refine ⟨{ w with
    client := { w.client with listings := (c.listingScript.skip (i + 1)).answers }
    clock := t }, ⟨congrArg (Script.mk _) hlast, hw.scripts, rfl⟩, hw.pages, ht⟩

/-- What follows the objects of a page. -/
def turn (b : RetryBudget Float) (src : Bucket) (n : Nat) (a : Answer Float Value) (w : World) :
    Stretch :=
  match continuation src a.entries with
  | .error f => Stretch.stop f w
  | .ok (some token) => readPages b src n (some token) w
  | .ok none =>
    Stretch.happen [Stretch.note .info ("Read " ++ toString w.objects ++ " objects from s3://" ++
      src.name ++ "/" ++ src.stem)] w

/-- The notice at the end of a listing. -/
def closingNote (src : Bucket) (objects : Nat) : Event :=
  Stretch.note .info ("Read " ++ toString objects ++ " objects from s3://" ++ src.name ++ "/" ++
    src.stem)

theorem turn_of_not_isTruncated {a : Answer Float Value} (h : isTruncated a = false) :
    turn b src n a w = Stretch.happen [closingNote src w.objects] w := by
  unfold isTruncated at h
  simp only [turn, continuation, h]
  rfl

theorem turn_of_isTruncated {a : Answer Float Value} (h : isTruncated a = true) :
    turn b src n a w = if (tokenOf a).isTruthy then readPages b src n (some (tokenOf a)) w
      else Stretch.stop (.destination (.noContinuation src.name)) w := by
  unfold isTruncated at h
  unfold tokenOf
  cases ht : ((Value.entry? "NextContinuationToken" a.entries).getD .null).isTruthy with
  | true => simp [turn, continuation, h, ht]
  | false => simp [turn, continuation, h, ht]

/-- **Reading a page**: its objects are read, and then its token
decides. -/
theorem readPages_page (b : RetryBudget Float) (src : Bucket) (n : Nat)
    (hq : c.listingScript.IsQuiet) (hw : At c i before w) (h : IsListing (answerAt c i)) :
    ∃ s, ReadsObjects b src c (i + 1) before (keysAt c i) s ∧
      readPages b src (n + 1) (sentAt c i) w =
        Stretch.after (headEvents src c i) (s.andThen (turn b src n (answerAt c i))) := by
  obtain ⟨w', hw', hpages, heq⟩ := readPages_answer b src n hq hw (sentAt c i)
  obtain ⟨page, os, ho, hos, hkeys⟩ := h
  have hentries : (answerAt c i).entries = page := by simp [Answer.entries, ho]
  have hobjects : objectsOf (answerAt c i) = os := by simp [objectsOf, hentries, hos]
  refine ⟨readObjects b src os { w' with pages := i + 1 }, ?_, ?_⟩
  · rw [keysAt, hobjects]
    exact readObjects_course b src hkeys hw'
  · rw [heq, Stretch.proceed_ok ho, readAnswer, Stretch.happen_andThen, hpages, headEvents,
      hobjects]
    simp only [Stretch.members?, readPage, hos, Stretch.happen_andThen, Stretch.after_after]
    unfold turn
    rw [hentries]
    rfl

/-! ## Reading the listing -/

/-- Where a traversal stands when all the objects on the first pages have
been read. -/
structure Reached (b : RetryBudget Float) (src : Bucket) (c : Client) (i : Nat) (es : List Event)
    (w : World) : Prop where
  stands : At c i (listed c i) w
  delivers : ∃ vs, delivered c [] (listed c i) = .ok vs
  events : ∃ n, Repeats b (MayRepeat src c) n ((List.range i).flatMap (pageEvents src c)) es

/-- A traversal that an object of a page ends, after the objects before
it. -/
inductive StopsAtObject (b : RetryBudget Float) (src : Bucket) (c : Client) (i : Nat)
    (s : Stretch) : Prop
  | mk {pre post : List Text} {key : Text} {vs : List Value} {a n : Nat} {f : TraversalFault} :
      s.fault = some f → keysAt c i = pre ++ key :: post →
      delivered c [] (listed c i ++ pre) = .ok vs → ObjectFault b c (listed c i ++ pre) key a f →
      Repeats b (MayRepeat src c) n (history src c i pre ++
        .called (getCall src key) :: List.replicate a .object) s.events →
      StopsAtObject b src c i s

/-- What happens before the objects of a page is never repeated. -/
theorem repeats_headEvents (b : RetryBudget Float) (src : Bucket) (c : Client) (i : Nat) :
    Repeats b (MayRepeat src c) 0 (headEvents src c i) (headEvents src c i) :=
  .call (k := 0) "" (fun h => absurd rfl h) (.other rfl rfl (.other rfl rfl .nil))

/-- **A page after the pages before it.** An object of it ends the
traversal, or all of them are read. -/
theorem Reached.page (hq : c.listingScript.IsQuiet) (hr : Reached b src c i es w)
    (h : IsListing (answerAt c i)) (n : Nat) :
    StopsAtObject b src c i (Stretch.after es (readPages b src (n + 1) (sentAt c i) w)) ∨
      ∃ es' w', Reached b src c (i + 1) (es ++ es') w' ∧ readPages b src (n + 1) (sentAt c i) w =
        Stretch.after es' (turn b src n (answerAt c i) w') := by
  obtain ⟨hw, ⟨vs, hvs⟩, m, hrep⟩ := hr
  obtain ⟨s, hs, heq⟩ := readPages_page b src n hq hw h
  have hhead := hrep.append (repeats_headEvents b src c i)
  cases hs with
  | @all us k hfault hus hw' hrep' =>
    refine .inr ⟨headEvents src c i ++ s.events, s.world, ⟨?_, ?_, ?_⟩, ?_⟩
    · rw [listed_succ]; exact hw'
    · rw [listed_succ]; exact ⟨_, delivered_append_iff.2 ⟨vs, us, hvs, hus, rfl⟩⟩
    · refine ⟨m + 0 + k, ?_⟩
      rw [← history_keysAt]
      simpa only [history, List.append_assoc] using hhead.append hrep'
    · rw [heq, Stretch.andThen_of_fault_eq_none hfault, Stretch.after_after]
  | @upTo post key us a k f pre hfault hkeys hus hob hrep' =>
    rw [heq, Stretch.andThen_of_fault_eq_some hfault, Stretch.after_after]
    refine .inl (.mk (n := m + 0 + k) (a := a) hfault hkeys
      (delivered_append_iff.2 ⟨vs, us, hvs, hus, rfl⟩) hob ?_)
    simpa only [history, Stretch.after_events, List.append_assoc] using hhead.append hrep'

/-- **A traversal up to a page**, when all the pages before it turn. It
has read their objects, or one of these has ended it. -/
theorem readPages_run (b : RetryBudget Float) (src : Bucket) (hq : c.listingScript.IsQuiet)
    (h : ∀ j < i, Turns c j) (n : Nat) :
    (∃ j < i, StopsAtObject b src c j (readPages b src (i + n) none (World.start c))) ∨
      ∃ es w, Reached b src c i es w ∧ readPages b src (i + n) none (World.start c) =
        Stretch.after es (readPages b src n (sentAt c i) w) := by
  induction i generalizing n with
  | zero =>
    refine .inr ⟨[], World.start c, ⟨⟨rfl, fun key => rfl, rfl⟩, ⟨[], rfl⟩, 0, .nil⟩, ?_⟩
    rw [Nat.zero_add]
    rfl
  | succ i ih =>
    rw [show i + 1 + n = i + (n + 1) by omega]
    rcases ih (fun j hj => h j (by omega)) (n + 1) with ⟨j, hj, hstop⟩ | ⟨es, w, hr, heq⟩
    · exact .inl ⟨j, by omega, hstop⟩
    · obtain ⟨hlisting, htruncated, htoken⟩ := h i (by omega)
      rw [heq]
      rcases hr.page hq hlisting n with hstop | ⟨es', w', hr', heq'⟩
      · exact .inl ⟨i, by omega, hstop⟩
      · have hturn : turn b src n (answerAt c i) w' = readPages b src n (sentAt c (i + 1)) w' := by
          rw [turn_of_isTruncated htruncated, if_pos htoken]
          rfl
        exact .inr ⟨es ++ es', w', hr', by rw [heq', hturn, Stretch.after_after]⟩

/-- A traversal has budget enough for the pages that turn and one more. -/
theorem exists_read_eq {k : Nat} (b : RetryBudget Float) (src : Bucket)
    (hturns : ∀ i < k, Turns c i) :
    ∃ n, read b src (World.start c) = readPages b src (k + (n + 1)) none (World.start c) := by
  have hle : k ≤ c.listings.length := by
    cases k with
    | zero => exact Nat.zero_le _
    | succ k => exact (hturns k (Nat.lt_succ_self k)).lt_length
  obtain ⟨n, hn⟩ := Nat.exists_eq_add_of_le hle
  refine ⟨n, ?_⟩
  rw [← Nat.add_assoc, ← hn]
  rfl

/-- **The first page that does not turn**, before which the traversal has
read all objects, or one of these has ended it. -/
theorem exists_read_run (b : RetryBudget Float) (src : Bucket) (hq : c.listingScript.IsQuiet) :
    ∃ k, (∀ i < k, Turns c i) ∧ ¬ Turns c k ∧
      ((∃ i < k, StopsAtObject b src c i (read b src (World.start c))) ∨
        ∃ n es w, Reached b src c k es w ∧ read b src (World.start c) =
          Stretch.after es (readPages b src (n + 1) (sentAt c k) w)) := by
  classical
  have hex : ∃ k, ¬ Turns c k := ⟨c.listings.length, fun h => Nat.lt_irrefl _ h.lt_length⟩
  have hturns : ∀ i < Nat.find hex, Turns c i := fun i hi => not_not.1 (Nat.find_min hex hi)
  obtain ⟨n, hread⟩ := exists_read_eq b src hturns
  refine ⟨Nat.find hex, hturns, Nat.find_spec hex, ?_⟩
  rw [hread]
  rcases readPages_run b src hq hturns (n + 1) with hstop | ⟨es, w, hr, heq⟩
  · exact .inl hstop
  · exact .inr ⟨n, es, w, hr, heq⟩

/-! ## What is seen of the listing -/

theorem requests_pages (k : Nat) :
    ((List.range k).flatMap (pageEvents src c)).filterMap Event.request? =
      (List.range k).flatMap (pageCalls src c) := by
  rw [List.filterMap_flatMap]
  congr 1
  funext i
  rw [pageEvents, List.filterMap_append, requests_objectsEvents]
  rfl

theorem lines_pages {k : Nat} {vs : List Value} (h : delivered c [] (listed c k) = .ok vs) :
    ((List.range k).flatMap (pageEvents src c)).filterMap Event.line? = vs := by
  induction k generalizing vs with
  | zero => cases h; rfl
  | succ k ih =>
    rw [listed_succ] at h
    obtain ⟨us, ws, hus, hws, rfl⟩ := delivered_append_iff.1 h
    rw [List.nil_append] at hws
    rw [List.range_succ, List.flatMap_append, List.flatMap_singleton, List.filterMap_append, ih hus,
      pageEvents, List.filterMap_append, lines_objectsEvents hws]
    rfl

theorem pages_pages (k : Nat) :
    ((List.range k).flatMap (pageEvents src c)).countP Event.isPage = k := by
  induction k with
  | zero => rfl
  | succ k ih =>
    rw [List.range_succ, List.flatMap_append, List.flatMap_singleton, List.countP_append, ih,
      pageEvents, List.countP_append, pages_objectsEvents]
    rfl

theorem objects_pages (k : Nat) :
    ((List.range k).flatMap (pageEvents src c)).countP Event.isObject = (listed c k).length := by
  induction k with
  | zero => rfl
  | succ k ih =>
    rw [List.range_succ, List.flatMap_append, List.flatMap_singleton, List.countP_append, ih,
      pageEvents, List.countP_append, objects_objectsEvents, listed_succ, List.length_append]
    exact congrArg _ (Nat.zero_add _)

/-- **How the reading of a bucket ends**, on page `i`: after these objects
of the page have been read, these have been asked for, and so many pages
and objects that are not read have been answered. -/
inductive Ending (b : RetryBudget Float) (src : Bucket) (c : Client) (i : Nat) :
    List Text → List Text → Nat → Nat → Option TraversalFault → Prop
  /-- The page is not truncated. -/
  | complete : IsListing (answerAt c i) → isTruncated (answerAt c i) = false →
      Ending b src c i (keysAt c i) (keysAt c i) (i + 1) 0 none
  /-- The page is truncated, but it has no token. -/
  | noToken : IsListing (answerAt c i) → isTruncated (answerAt c i) = true →
      (tokenOf (answerAt c i)).isTruthy = false →
      Ending b src c i (keysAt c i) (keysAt c i) (i + 1) 0
        (some (.destination (.noContinuation src.name)))
  /-- The request for the page fails. -/
  | listing {e : CallError} : (answerAt c i).outcome = .error e →
      Ending b src c i [] [] i 0 (some (Stretch.errorFault (description src) e))
  /-- An object of the page has no lines. -/
  | object {pre post : List Text} {key : Text} {a : Nat} {f : TraversalFault} :
      IsListing (answerAt c i) → keysAt c i = pre ++ key :: post →
      ObjectFault b c (listed c i ++ pre) key a f →
      Ending b src c i pre (pre ++ [key]) (i + 1) a (some f)

/-- **How a bucket is read**, when the reading ends on page `i` after these
objects of it have been read and these have been asked for. -/
structure Traversed (b : RetryBudget Float) (src : Bucket) (c : Client) (i : Nat)
    (read asked : List Text) (s : Stretch) : Prop where
  turns : ∀ j < i, Turns c j
  ending : ∃ unread, s.objects = (listed c i ++ read).length + unread ∧
    Ending b src c i read asked s.pages unread s.fault
  /-- The requests are made in the order of the listing, and only those
  for objects whose scripts are throttled are repeated. -/
  requests : ∃ times : List Nat, times.length = (calls src c i asked).length ∧
    (∀ p ∈ (calls src c i asked).zip times, p.2 ≠ 0 → MayRepeat src c p.1) ∧
    s.requests = Request.repeated (calls src c i asked) times ∧
    s.sleeps = List.replicate times.sum b.delay
  /-- The lines are those of the objects that have been read, in the order
  of the listing. -/
  lines : delivered c [] (listed c i ++ read) = .ok s.lines

/-- A traversal is seen from the history without repetitions. -/
theorem traversed_of_repeats {read asked : List Text} {s : Stretch} {plain : List Event}
    {vs : List Value} (unread pages : Nat) (hturns : ∀ j < i, Turns c j)
    (hrep : Repeats b (MayRepeat src c) n plain s.events)
    (hcalls : plain.filterMap Event.request? = calls src c i asked)
    (hvs : delivered c [] (listed c i ++ read) = .ok vs) (hlines : plain.filterMap Event.line? = vs)
    (hobjects : plain.countP Event.isObject = (listed c i ++ read).length + unread)
    (hpages : plain.countP Event.isPage = pages)
    (hending : Ending b src c i read asked pages unread s.fault) :
    Traversed b src c i read asked s := by
  obtain ⟨times, hlength, hsum, hmay, hrequests⟩ := hrep.requests_eq
  rw [hcalls] at hlength hmay hrequests
  have hpages' : s.pages = pages := by rw [Stretch.pages, hrep.pages_eq, hpages]
  exact {
    turns := hturns
    ending := ⟨unread, by rw [Stretch.objects, hrep.objects_eq, hobjects], hpages' ▸ hending⟩
    requests := ⟨times, hlength, hmay, hrequests, by rw [hsum]; exact hrep.sleeps_eq.2⟩
    lines := by rw [hvs, Stretch.lines, hrep.lines_eq, hlines] }

theorem requests_history : (history src c i keys).filterMap Event.request? =
    calls src c i keys := by
  rw [history, List.filterMap_append, requests_pages, List.filterMap_append, requests_objectsEvents]
  rfl

theorem lines_history {vs : List Value} (h : delivered c [] (listed c i ++ keys) = .ok vs) :
    (history src c i keys).filterMap Event.line? = vs := by
  obtain ⟨us, ws, hus, hws, rfl⟩ := delivered_append_iff.1 h
  rw [List.nil_append] at hws
  rw [history, List.filterMap_append, lines_pages hus, List.filterMap_append,
    lines_objectsEvents hws]
  rfl

theorem pages_history : (history src c i keys).countP Event.isPage = i + 1 := by
  rw [history, List.countP_append, pages_pages, List.countP_append, pages_objectsEvents]
  rfl

theorem objects_history :
    (history src c i keys).countP Event.isObject = (listed c i ++ keys).length := by
  rw [history, List.countP_append, objects_pages, List.countP_append, objects_objectsEvents,
    List.length_append]
  exact congrArg _ (Nat.zero_add _)

/-- A traversal that an object ends. -/
theorem StopsAtObject.traversed {s : Stretch} (h : StopsAtObject b src c i s)
    (hturns : ∀ j < i, Turns c j) (hlisting : IsListing (answerAt c i)) :
    ∃ read asked, Traversed b src c i read asked s := by
  obtain @⟨pre, post, key, vs, a, n, f, hfault, hkeys, hvs, hob, hrep⟩ := h
  have hanswered : ∀ p : Event → Bool, p (.called (getCall src key)) = false →
      (.called (getCall src key) :: List.replicate a .object : List Event).countP p =
        if p .object then a else 0 := by
    intro p hp
    rw [List.countP_cons_of_neg (by simp [hp]), List.countP_replicate]
  refine ⟨pre, pre ++ [key], traversed_of_repeats a (i + 1) hturns hrep ?_ hvs
    ?_ ?_ ?_ (by rw [hfault]; exact .object hlisting hkeys hob)⟩
  · rw [List.filterMap_append, requests_history, calls, calls, List.map_append,
      List.filterMap_cons_some (rfl : Event.request? (.called (getCall src key)) =
        some (getCall src key)), List.filterMap_replicate_of_none rfl]
    simp
  · rw [List.filterMap_append, lines_history hvs, List.filterMap_cons_none rfl,
      List.filterMap_replicate_of_none rfl, List.append_nil]
  · rw [List.countP_append, objects_history, hanswered _ rfl]
    rfl
  · rw [List.countP_append, pages_history, hanswered _ rfl]
    rfl

/-- **How a bucket is read to the end of its listing**, after all the pages
that turn. -/
theorem Reached.traversed {k : Nat} (hq : c.listingScript.IsQuiet) (hr : Reached b src c k es w)
    (hanswer : (∃ e, (answerAt c k).outcome = .error e) ∨ IsListing (answerAt c k))
    (hturns : ∀ i < k, Turns c i) (hstays : ¬ Turns c k) (n : Nat) :
    ∃ read asked, Traversed b src c k read asked
      (Stretch.after es (readPages b src (n + 1) (sentAt c k) w)) := by
  rcases hanswer with ⟨e, he⟩ | hlisting
  · obtain ⟨hw, ⟨vs, hvs⟩, m, hrep⟩ := hr
    obtain ⟨w', -, -, heq⟩ := readPages_answer b src n hq hw (sentAt c k)
    rw [Stretch.proceed_error he] at heq
    rw [heq, Stretch.after_after, Stretch.after_stop]
    have hcall : Repeats b (MayRepeat src c) 0 [.called (listCall src c k)]
        [.called (listCall src c k)] := .call (k := 0) "" (fun h => absurd rfl h) .nil
    refine ⟨[], [], traversed_of_repeats 0 k hturns (hrep.append hcall) ?_
      (by rw [List.append_nil]; exact hvs) ?_ ?_ ?_ (.listing he)⟩
    · rw [List.filterMap_append, requests_pages]; rfl
    · rw [List.filterMap_append, lines_pages hvs]; exact List.append_nil _
    · rw [List.countP_append, objects_pages, List.append_nil]; rfl
    · rw [List.countP_append, pages_pages]; rfl
  · rcases hr.page hq hlisting n with hstop | ⟨es', w', hr', heq⟩
    · exact hstop.traversed hturns hlisting
    · obtain ⟨-, ⟨vs, hvs⟩, m, hrep⟩ := hr'
      rw [← history_keysAt] at hrep
      rw [listed_succ] at hvs
      rw [heq, Stretch.after_after]
      cases htruncated : isTruncated (answerAt c k) with
      | false =>
        rw [turn_of_not_isTruncated htruncated, Stretch.after_happen]
        have hnote : Repeats b (MayRepeat src c) 0 [closingNote src w'.objects]
            [closingNote src w'.objects] := .other rfl rfl .nil
        refine ⟨_, _, traversed_of_repeats 0 (k + 1) hturns (hrep.append hnote) ?_ hvs ?_ ?_ ?_
          (.complete hlisting htruncated)⟩
        · rw [List.filterMap_append, requests_history]; exact List.append_nil _
        · rw [List.filterMap_append, lines_history hvs]; exact List.append_nil _
        · rw [List.countP_append, objects_history]; rfl
        · rw [List.countP_append, pages_history]; rfl
      | true =>
        cases htoken : (tokenOf (answerAt c k)).isTruthy with
        | true => exact absurd ⟨hlisting, htruncated, htoken⟩ hstays
        | false =>
          rw [turn_of_isTruncated htruncated, if_neg (by simp [htoken]), Stretch.after_stop]
          exact ⟨_, _, traversed_of_repeats 0 (k + 1) hturns hrep requests_history hvs
            (lines_history hvs) objects_history pages_history (.noToken hlisting htruncated htoken)⟩

/-- Whether a listing comes to an end with all its objects read: after
pages that turn, a page is not truncated, and all objects have lines. -/
def Completes (c : Client) : Prop :=
  ∃ k vs, (∀ i < k, Turns c i) ∧ IsListing (answerAt c k) ∧ isTruncated (answerAt c k) = false ∧
    delivered c [] (listed c (k + 1)) = .ok vs

/-- An object that ends the traversal is not among objects that all have
lines, where the budget is patient with its script. -/
theorem ObjectFault.not_delivered {k a : Nat} {pre post : List Text} {key : Text}
    {f : TraversalFault} (h : ObjectFault b c (listed c i ++ pre) key a f)
    (hkeys : keysAt c i = pre ++ key :: post) (hik : i ≤ k)
    (hb : b.IsPatient (scriptAt c (listed c i ++ pre) key)) (vs : List Value) :
    delivered c [] (listed c (k + 1)) ≠ .ok vs := by
  intro hvs
  obtain ⟨rest, hrest⟩ := exists_listed_eq (c := c) hik
  rw [hrest, hkeys, List.append_assoc, ← List.append_assoc] at hvs
  obtain ⟨_, _, -, hobject, -⟩ := delivered_append_iff.1 hvs
  rw [List.nil_append, List.cons_append] at hobject
  obtain ⟨us, _, hus, -⟩ := delivered_cons_iff.1 hobject
  exact h.outcome_ne hb us hus

/-- No object of such a page ends the traversal. -/
theorem StopsAtObject.not_delivered {k : Nat} {s : Stretch} (h : StopsAtObject b src c i s)
    (hik : i ≤ k)
    (hb : ∀ pre key post, listed c (k + 1) = pre ++ key :: post → b.IsPatient (scriptAt c pre key))
    (vs : List Value) : delivered c [] (listed c (k + 1)) ≠ .ok vs := by
  obtain @⟨pre, post, key, us, a, n, f, -, hkeys, -, hob, -⟩ := h
  obtain ⟨rest, hrest⟩ := exists_listed_eq (c := c) hik
  refine hob.not_delivered hkeys hik (hb _ key (post ++ rest) ?_) vs
  rw [hrest, hkeys]
  simp

/-- **A listing that comes to an end** is read without a fault, and its
lines are those of its objects. -/
theorem read_of_delivered {k : Nat} {vs : List Value} (b : RetryBudget Float) (src : Bucket)
    (hq : c.listingScript.IsQuiet) (hturns : ∀ i < k, Turns c i)
    (hlisting : IsListing (answerAt c k)) (htruncated : isTruncated (answerAt c k) = false)
    (hvs : delivered c [] (listed c (k + 1)) = .ok vs)
    (hb : ∀ pre key post, listed c (k + 1) = pre ++ key :: post →
      b.IsPatient (scriptAt c pre key)) :
    (read b src (World.start c)).fault = none ∧ (read b src (World.start c)).lines = vs := by
  obtain ⟨n, hread⟩ := exists_read_eq b src hturns
  rw [hread]
  rcases readPages_run b src hq hturns (n + 1) with ⟨j, hj, hstop⟩ | ⟨es, w, hr, heq⟩
  · exact absurd hvs (hstop.not_delivered (Nat.le_of_lt hj) hb vs)
  · rw [heq]
    rcases hr.page hq hlisting n with hstop | ⟨es', w', hr', heq'⟩
    · exact absurd hvs (hstop.not_delivered (Nat.le_refl k) hb vs)
    · obtain ⟨-, -, m, hrep⟩ := hr'
      rw [heq', turn_of_not_isTruncated htruncated, Stretch.after_after, Stretch.after_happen]
      refine ⟨rfl, ?_⟩
      rw [Stretch.lines, List.filterMap_append, hrep.lines_eq, lines_pages hvs]
      exact List.append_nil vs

namespace Traversed

variable {read asked : List Text} {s : Stretch}

/-- On quiet scripts nothing is repeated. -/
theorem requests_of_isQuiet (h : Traversed b src c i read asked s)
    (hq : ∀ key, (scriptOf c (.text key)).IsQuiet) :
    s.requests = calls src c i asked ∧ s.sleeps = [] := by
  obtain ⟨times, hlength, hmay, hrequests, hsleeps⟩ := h.requests
  obtain ⟨hcalls, hsum⟩ := Request.repeated_of_eq_zero hlength fun p hp => by
    refine Decidable.byContradiction fun hne => ?_
    obtain ⟨key, -, hkey⟩ := hmay p hp hne
    exact hkey (hq key)
  rw [hrequests, hcalls, hsleeps, hsum]
  exact ⟨rfl, rfl⟩

/-- **A traversal ends without a fault** at the first page that is not
truncated, when no object has ended it before, and nowhere else. -/
theorem fault_eq_none_iff (h : Traversed b src c i read asked s)
    (hb : ∀ before key, b.IsPatient (scriptAt c before key)) : s.fault = none ↔ Completes c := by
  obtain ⟨hturns, ⟨unread, -, hending⟩, -, hlines⟩ := h
  generalize s.fault = fault at hending ⊢
  generalize s.pages = pages at hending
  constructor
  · rintro rfl
    cases hending with
    | complete hlisting htruncated =>
      exact ⟨i, s.lines, hturns, hlisting, htruncated, by rw [listed_succ]; exact hlines⟩
  · rintro ⟨k, vs, hturns', hlisting', htruncated', hvs⟩
    have hik : i ≤ k := Nat.le_of_not_lt fun hlt => by
      rw [(hturns k hlt).2.1] at htruncated'
      cases htruncated'
    -- A page that does not turn can only be the last one.
    have hlast : ¬ Turns c i → i = k := fun hstays =>
      Nat.le_antisymm hik (Nat.le_of_not_lt fun hlt => hstays (hturns' i hlt))
    cases hending with
    | complete => rfl
    | noToken _ htruncated htoken =>
      obtain rfl := hlast fun h => absurd h.2.2 (by simp [htoken])
      rw [htruncated] at htruncated'
      cases htruncated'
    | listing he =>
      have hpage : ¬ IsListing (answerAt c i) := fun ⟨_, _, ho, _⟩ => by rw [ho] at he; cases he
      obtain rfl := hlast fun h => hpage h.1
      exact absurd hlisting' hpage
    | @object pre post key a f _ hkeys hob =>
      exact absurd hvs (hob.not_delivered hkeys hik (hb _ _) vs)

end Traversed

/-- **The listing protocol.** Whatever a service answers without
throttling to the requests for pages, and whatever to those for objects, a
bucket is read page by page and object by object, in the order of the
listing. It ends without a fault at the first page that is not truncated,
unless an object ends it before, which a patient budget leaves to objects
without lines. -/
theorem listing_protocol (b : RetryBudget Float) (src : Bucket) (c : Client)
    (hq : c.listingScript.IsQuiet)
    (hlistings : ∀ a ∈ c.listings, (∃ e, a.outcome = .error e) ∨ IsListing a) :
    let s := read b src (World.start c)
    ∃ i read asked, Traversed b src c i read asked s ∧
      ((∀ key, (scriptOf c (.text key)).IsQuiet) →
        s.requests = calls src c i asked ∧ s.sleeps = []) ∧
      ((∀ before key, b.IsPatient (scriptAt c before key)) → (s.fault = none ↔ Completes c)) := by
  intro s
  suffices h : ∃ i read asked, Traversed b src c i read asked s by
    obtain ⟨i, read, asked, h⟩ := h
    exact ⟨i, read, asked, h, h.requests_of_isQuiet, h.fault_eq_none_iff⟩
  obtain ⟨k, hturns, hstays, ⟨i, hi, hstop⟩ | ⟨n, es, w, hr, heq⟩⟩ := exists_read_run b src hq
  · exact ⟨i, hstop.traversed (fun j hj => hturns j (by omega)) (hturns i hi).1⟩
  · have h := hr.traversed hq (listing_or_error hlistings k) hturns hstays n
    rw [← heq] at h
    exact ⟨k, h⟩

end Bucket

/-! ## A listing of three pages

A page that lists an object twice, a page without contents, and a last
page whose object is throttled once. -/

namespace Bucket.ThreeListings

local instance : Bounds := .usual

/-- The answer of a page with these entries. -/
def page (entries : List (Value × Value)) : Answer Float Value := ⟨0.0, .ok (.mapping entries)⟩

/-- The contents of a page with these keys. -/
def contentsOf (keys : List String) : Value × Value :=
  (.ofString "Contents", .list (keys.map fun k => .mapping [(.ofString "Key", .ofString k)]))

/-- What a truncated page says about the next one. -/
def more (token : String) : List (Value × Value) :=
  [(.ofString "IsTruncated", .bool true), (.ofString "NextContinuationToken", .ofString token)]

/-- The answer of an object with this text. -/
def object (text : String) : Answer Float Body := ⟨0.0, .ok (.bytes text.toUTF8.toList)⟩

/-- The client with the three pages and the two objects. -/
def client : Client :=
  .ofScripts [page (contentsOf ["a", "a"] :: more "t/1"), page (more "t/2"),
    page [contentsOf ["b"]]] []
    [(.ofString "a", [object "1\n\n2\n", object "3"]),
      (.ofString "b", [⟨0.0, .error (Client.refusal "SlowDown" "" "GetObject")⟩, object "4"])]

/-- The bucket that is read. -/
def bucket : Bucket := ⟨"logs", "run/"⟩

theorem client_isQuiet : client.listingScript.IsQuiet :=
  ⟨by simp [client, Client.ofScripts, Client.listingScript, page], by decide +kernel⟩

theorem isListing_page {entries : List (Value × Value)} (keys : List String)
    (h : Value.entry? "Contents" entries = some (contentsOf keys).2 ∨
      (Value.entry? "Contents" entries = none ∧ keys = [])) : IsListing (page entries) := by
  refine ⟨entries, keys.map fun k => .mapping [(.ofString "Key", .ofString k)], rfl, ?_, ?_⟩
  · rcases h with h | ⟨h, rfl⟩
    · simp [contents, h, contentsOf, Stretch.parts?]
    · simp [contents, h, Stretch.parts?]
  · intro o ho
    obtain ⟨k, -, rfl⟩ := List.mem_map.1 ho
    exact ⟨Text.ofString k, by rw [key?, Value.entry?_cons, if_pos rfl, Value.ofString]⟩

theorem listings_client :
    ∀ a ∈ client.listings, (∃ e, a.outcome = .error e) ∨ IsListing a := by
  intro a ha
  simp only [client, Client.ofScripts, List.mem_cons, List.not_mem_nil, or_false] at ha
  rcases ha with rfl | rfl | rfl
  · exact .inr (isListing_page ["a", "a"] (.inl (by simp [contentsOf])))
  · exact .inr (isListing_page [] (.inr (by simp [more])))
  · exact .inr (isListing_page ["b"] (.inl (by simp [contentsOf])))

/-- The three pages are read to their end, with one repetition. -/
theorem read_threeListings : client.listingScript.IsQuiet ∧
    (∀ a ∈ client.listings, (∃ e, a.outcome = .error e) ∨ IsListing a) ∧
    (read ⟨1.0, 0, 0.0⟩ bucket (World.start client)).fault.isNone = true ∧
    (read ⟨1.0, 0, 0.0⟩ bucket (World.start client)).requests.length = 7 ∧
    ∃ i read' asked, Traversed ⟨1.0, 0, 0.0⟩ bucket client i read' asked
      (read ⟨1.0, 0, 0.0⟩ bucket (World.start client)) := by
  obtain ⟨i, read', asked, h, -, -⟩ :=
    listing_protocol ⟨1.0, 0, 0.0⟩ bucket client client_isQuiet listings_client
  exact ⟨client_isQuiet, listings_client, by decide +kernel, by decide +kernel, i, read', asked, h⟩

end Bucket.ThreeListings

end DeliveryAudit
