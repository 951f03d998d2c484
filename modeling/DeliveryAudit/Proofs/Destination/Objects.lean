import DeliveryAudit.Proofs.Destination.Calls
import DeliveryAudit.Proofs.Retry.Repeats
/-!
# The objects of a bucket

A read of an object is answered by the first answer of its script that is
not throttling, after those of the reads of the same object before it
(`scriptAt`). The objects of a list are read one after another: they
deliver their lines in this order (`delivered`), up to the first one that
ends the traversal (`ReadsObjects`).
-/

namespace DeliveryAudit

namespace Bucket

/-! ## What objects deliver -/

/-- A line of an object. -/
def lineOf (cs : List Char) : Value := .text (cs.map .scalar)

theorem map_lineEvent (ls : List (List Char)) :
    ls.map lineEvent = (ls.map lineOf).map Event.line := by
  rw [List.map_map]
  rfl

variable [Bounds]

/-- The script of an object, after these objects have been read. -/
def scriptAt (c : Client) (before : List Text) (key : Text) : Script Body :=
  (scriptOf c (.text key)).remaining (before.count key)

/-- What a call for an object is described as. -/
def objectDescription (key : Text) : String := "get s3 object " ++ (Value.text key).quoted

/-- The lines of an object that is read after these, or why there are
none. -/
def outcome (c : Client) (before : List Text) (key : Text) : Except TraversalFault (List Value) :=
  match (scriptAt c before key).next.outcome with
  | .ok body => (objectLines key body).map fun ls => ls.map lineOf
  | .error e => .error (Stretch.errorFault (objectDescription key) e)

/-- The lines of objects that are read one after another, or why there are
none. -/
def delivered (c : Client) : List Text → List Text → Except TraversalFault (List Value)
  | _, [] => .ok []
  | before, key :: keys => do
    let vs ← outcome c before key
    let ws ← delivered c (before ++ [key]) keys
    return vs ++ ws

/-- The request for an object. -/
def getCall (src : Bucket) (key : Text) : Request := .getObject src.name (.text key)

/-- Whether a request may be repeated: it asks for an object whose script
is throttled. -/
def MayRepeat (src : Bucket) (c : Client) (r : Request) : Prop :=
  ∃ key, r = getCall src key ∧ ¬ (scriptOf c (.text key)).IsQuiet

/-- What happens when objects are read one after another. -/
def objectsEvents (src : Bucket) (c : Client) : List Text → List Text → List Event
  | _, [] => []
  | before, key :: keys =>
    .called (getCall src key) :: .object ::
      (((outcome c before key).toOption.getD []).map Event.line ++
        objectsEvents src c (before ++ [key]) keys)

/-- **Why an object ends the traversal**, and how many objects are counted
for it. -/
inductive ObjectFault (b : RetryBudget Float) (c : Client) (before : List Text) (key : Text) :
    Nat → TraversalFault → Prop
  /-- It is answered, but it has no lines. -/
  | unreadable {body : Body} {f : TraversalFault} :
      (scriptAt c before key).next.outcome = .ok body → objectLines key body = .error f →
      ObjectFault b c before key 1 f
  /-- The call for it fails. -/
  | failed {e : CallError} : (scriptAt c before key).next.isThrottled = false →
      (scriptAt c before key).next.outcome = .error e →
      ObjectFault b c before key 0 (Stretch.errorFault (objectDescription key) e)
  /-- The call for it gives up. -/
  | gaveUp {n : Nat} {f : TraversalFault} :
      Stretch.GivesUp b (objectDescription key) (scriptAt c before key) n f →
      ObjectFault b c before key 0 f

variable {b : RetryBudget Float} {src : Bucket} {c : Client} {i : Nat} {w : World}
variable {before keys pre post : List Text} {key : Text} {vs ws : List Value}

theorem scriptAt_isQuiet (h : (scriptOf c (.text key)).IsQuiet) (before : List Text) :
    (scriptAt c before key).IsQuiet :=
  h.remaining _

theorem outcome_of_ok {body : Body} (h : (scriptAt c before key).next.outcome = .ok body) :
    outcome c before key = (objectLines key body).map fun ls => ls.map lineOf := by
  rw [outcome, h]

theorem delivered_cons_iff {us : List Value} : delivered c before (key :: keys) = .ok us ↔
    ∃ vs ws, outcome c before key = .ok vs ∧ delivered c (before ++ [key]) keys = .ok ws ∧
      us = vs ++ ws := by
  rw [delivered]
  cases outcome c before key with
  | error f => exact ⟨fun h => (by cases h), fun ⟨_, _, h, _⟩ => (by cases h)⟩
  | ok vs =>
    cases delivered c (before ++ [key]) keys with
    | error f => exact ⟨fun h => (by cases h), fun ⟨_, _, _, h, _⟩ => (by cases h)⟩
    | ok ws =>
      constructor
      · intro h
        cases h
        exact ⟨vs, ws, rfl, rfl, rfl⟩
      · rintro ⟨_, _, ⟨⟩, ⟨⟩, rfl⟩
        rfl

/-- Objects deliver what the first of them and then the others do. -/
theorem delivered_append_iff {us : List Value} : delivered c before (keys ++ post) = .ok us ↔
    ∃ vs ws, delivered c before keys = .ok vs ∧ delivered c (before ++ keys) post = .ok ws ∧
      us = vs ++ ws := by
  induction keys generalizing before us with
  | nil =>
    rw [List.nil_append, List.append_nil]
    constructor
    · exact fun h => ⟨[], us, rfl, h, rfl⟩
    · rintro ⟨_, _, hvs, hws, h⟩
      cases hvs
      rw [h]
      exact hws
  | cons key keys ih =>
    rw [List.cons_append, delivered_cons_iff]
    constructor
    · rintro ⟨vs, us', hvs, hus', rfl⟩
      obtain ⟨ws, ws', hws, hws', rfl⟩ := ih.1 hus'
      rw [List.append_cons]
      exact ⟨vs ++ ws, ws', delivered_cons_iff.2 ⟨vs, ws, hvs, hws, rfl⟩, hws',
        (List.append_assoc _ _ _).symm⟩
    · rintro ⟨vs', ws', hvs', hws', rfl⟩
      obtain ⟨vs, ws, hvs, hws, rfl⟩ := delivered_cons_iff.1 hvs'
      rw [List.append_cons] at hws'
      exact ⟨vs, ws ++ ws', hvs, ih.2 ⟨ws, ws', hws, hws', rfl⟩, List.append_assoc _ _ _⟩

/-- An object ends the traversal for want of lines, where the budget is
patient with its script. -/
theorem ObjectFault.outcome_ne {a : Nat} {f : TraversalFault} (h : ObjectFault b c before key a f)
    (hb : b.IsPatient (scriptAt c before key)) (vs : List Value) :
    outcome c before key ≠ .ok vs := by
  cases h with
  | unreadable ho hf =>
    rw [outcome_of_ok ho, hf]
    exact fun h => nomatch h
  | failed _ ho =>
    rw [outcome, ho]
    exact fun h => nomatch h
  | gaveUp h => exact absurd hb h.not_isPatient

/-! ## What is seen of objects -/

theorem objectsEvents_cons (h : outcome c before key = .ok vs) :
    objectsEvents src c before (key :: keys) =
      (.called (getCall src key) :: .object :: vs.map Event.line) ++
        objectsEvents src c (before ++ [key]) keys := by
  rw [objectsEvents, h]
  rfl

theorem lines_objectsEvents (h : delivered c before keys = .ok vs) :
    (objectsEvents src c before keys).filterMap Event.line? = vs := by
  induction keys generalizing before vs with
  | nil => cases h; rfl
  | cons key keys ih =>
    obtain ⟨vs, ws, hvs, hws, rfl⟩ := delivered_cons_iff.1 h
    rw [objectsEvents, List.filterMap_cons_none rfl, List.filterMap_cons_none rfl,
      List.filterMap_append, Stretch.lines_map_line, ih hws, hvs]
    rfl

theorem requests_objectsEvents : (objectsEvents src c before keys).filterMap Event.request? =
    keys.map (getCall src) := by
  induction keys generalizing before with
  | nil => rfl
  | cons key keys ih =>
    have hcalled : Event.request? (.called (getCall src key)) = some (getCall src key) := rfl
    rw [objectsEvents, List.filterMap_cons_some hcalled, List.filterMap_cons_none rfl,
      List.filterMap_append, Stretch.requests_map_line, ih]
    rfl

theorem pages_objectsEvents : (objectsEvents src c before keys).countP Event.isPage = 0 := by
  induction keys generalizing before with
  | nil => rfl
  | cons key keys ih =>
    rw [objectsEvents, List.countP_cons_of_neg Bool.false_ne_true,
      List.countP_cons_of_neg Bool.false_ne_true, List.countP_append, Stretch.pages_map_line, ih]

theorem objects_objectsEvents :
    (objectsEvents src c before keys).countP Event.isObject = keys.length := by
  induction keys generalizing before with
  | nil => rfl
  | cons key keys ih =>
    rw [objectsEvents, List.countP_cons_of_neg Bool.false_ne_true, List.countP_cons_of_pos rfl,
      List.countP_append, Stretch.objects_map_line, ih, Nat.zero_add]
    rfl

/-! ## Reading objects -/

/-- Where a traversal stands after so many listings and these objects. -/
structure At (c : Client) (i : Nat) (before : List Text) (w : World) : Prop where
  listings : w.client.listingScript = c.listingScript.skip i
  scripts : ∀ key, scriptOf w.client (.text key) = scriptAt c before key
  pages : w.pages = i

/-- **How objects are read** one after another: all of them, or up to one
that ends the traversal. -/
inductive ReadsObjects (b : RetryBudget Float) (src : Bucket) (c : Client) (i : Nat)
    (before keys : List Text) (s : Stretch) : Prop
  | all {vs : List Value} {n : Nat} : s.fault = none → delivered c before keys = .ok vs →
      At c i (before ++ keys) s.world →
      Repeats b (MayRepeat src c) n (objectsEvents src c before keys) s.events →
      ReadsObjects b src c i before keys s
  | upTo {post : List Text} {key : Text} {vs : List Value} {a n : Nat} {f : TraversalFault}
      (pre : List Text) :
      s.fault = some f → keys = pre ++ key :: post → delivered c before pre = .ok vs →
      ObjectFault b c (before ++ pre) key a f →
      Repeats b (MayRepeat src c) n (objectsEvents src c before pre ++
        .called (getCall src key) :: List.replicate a .object) s.events →
      ReadsObjects b src c i before keys s

/-- A read of an object uses up its answer. -/
theorem At.leave (hw : At c i before w) (key : Text) (t : Float) (n : Nat) :
    At c i (before ++ [key])
      { w with
        client := Bucket.leave w.client (scriptAt c before key).rest.answers (.text key)
        clock := t
        objects := n } where
  listings := by rw [listingScript_leave]; exact hw.listings
  scripts k := by
    rw [← hw.scripts key, scriptOf_leave (Script.rest_answers_suffix _)]
    simp only [name?, Option.isSome_some, true_and, Option.some.injEq, hw.scripts]
    unfold scriptAt
    rw [List.count_append, List.count_singleton]
    by_cases hk : k = key
    · rw [if_pos hk, if_pos (by simpa using hk.symm), hk]
      rfl
    · rw [if_neg hk, if_neg (by simpa using Ne.symm hk)]
      rfl
  pages := hw.pages

/-- Only a throttled script makes a call be repeated. -/
theorem mayRepeat_of_not_isQuiet (h : ¬ (scriptAt c before key).IsQuiet) :
    MayRepeat src c (getCall src key) :=
  ⟨key, rfl, fun hq => h (scriptAt_isQuiet hq before)⟩

/-- A read of an object is a call on what is left of its script. -/
theorem readObject_eq (b : RetryBudget Float) (src : Bucket) (hw : At c i before w) (key : Text) :
    readObject b src (.text key) w =
      Stretch.call b (objectDescription key) (getCall src key) w (scriptAt c before key)
        (fun left => Bucket.leave w.client left (.text key)) (readBody (.text key)) := by
  have hhashable : (Value.text key).isHashable = true := rfl
  rw [readObject, if_pos hhashable, hw.scripts]
  rfl

/-- An object that ends the traversal, after so many attempts, whether it
was answered or not. -/
theorem ObjectFault.readsObjects {a n : Nat} {f : TraversalFault}
    (h : ObjectFault b c before key a f) (hmay : n ≠ 0 → MayRepeat src c (getCall src key))
    (w : World) :
    ReadsObjects b src c i before [key]
      ⟨Stretch.attemptEvents b (objectDescription key) (getCall src key) (n + 1) ++
        List.replicate a .object, some f, w⟩ := by
  have hcounted : Repeats b (MayRepeat src c) 0 (List.replicate a .object)
      (List.replicate a .object) :=
    .of_eventless (List.filterMap_replicate_of_none rfl) (List.filterMap_replicate_of_none rfl)
  exact .upTo [] rfl rfl rfl (by rwa [List.append_nil])
    (.call (objectDescription key) hmay hcounted)

/-- **An object that is answered**, after so many attempts: it has lines,
or it ends the traversal. -/
theorem readBody_course {body : Body} {n : Nat}
    (ho : (scriptAt c before key).next.outcome = .ok body)
    (hmay : n ≠ 0 → MayRepeat src c (getCall src key))
    (hw : At c i (before ++ [key]) { w with objects := w.objects + 1 }) :
    ReadsObjects b src c i before [key]
      (Stretch.after (Stretch.attemptEvents b (objectDescription key) (getCall src key) (n + 1))
        (readBody (.text key) body w)) := by
  rw [readBody, Stretch.happen_andThen, Stretch.after_after]
  simp only [keyText]
  cases hlines : objectLines key body with
  | error f =>
    have h : ObjectFault b c before key 1 f := .unreadable ho hlines
    simpa [Stretch.after, Stretch.stop] using
      h.readsObjects (i := i) hmay { w with objects := w.objects + 1 }
  | ok ls =>
    have hvs : outcome c before key = .ok (ls.map lineOf) := by
      rw [outcome_of_ok ho, hlines]
      rfl
    have hlines : Repeats b (MayRepeat src c) 0 (.object :: (ls.map lineOf).map Event.line)
        (.object :: (ls.map lineOf).map Event.line) :=
      .other rfl rfl (.of_eventless (Stretch.requests_map_line _) (Stretch.sleeps_map_line _))
    have hread := Repeats.call (objectDescription key) hmay hlines
    refine .all (n := n + 0) rfl (delivered_cons_iff.2 ⟨_, [], hvs, rfl, rfl⟩) hw ?_
    rw [objectsEvents_cons hvs, objectsEvents, List.append_nil]
    simpa only [Stretch.happen, Stretch.after_events, map_lineEvent, List.append_assoc,
      List.singleton_append] using hread

/-- **Reading one object.** -/
theorem readObject_course (b : RetryBudget Float) (src : Bucket) (hw : At c i before w)
    (key : Text) :
    ReadsObjects b src c i before [key] (readObject b src (.text key) w) := by
  rw [readObject_eq b src hw]
  rcases Stretch.call_course b (objectDescription key) (getCall src key) w (scriptAt c before key)
    (fun left => Bucket.leave w.client left (.text key)) (readBody (.text key)) with
    ⟨hnext, t, heq⟩ | ⟨n, f, w', hgives, heq⟩
  · have hmay : (scriptAt c before key).waits ≠ 0 → MayRepeat src c (getCall src key) :=
      fun h => mayRepeat_of_not_isQuiet fun hq => h hq.waits_eq_zero
    rw [heq]
    cases ho : (scriptAt c before key).next.outcome with
    | error e =>
      rw [Stretch.proceed_error ho]
      exact ObjectFault.readsObjects (.failed hnext ho) hmay _
    | ok body =>
      rw [Stretch.proceed_ok ho]
      exact readBody_course ho hmay (hw.leave key t (w.objects + 1))
  · have hmay : n ≠ 0 → MayRepeat src c (getCall src key) :=
      fun _ => mayRepeat_of_not_isQuiet fun hq => hgives.not_isPatient (hq.isPatient b)
    rw [heq]
    exact ObjectFault.readsObjects (.gaveUp hgives) hmay w'

/-- An object, and then the objects after it. -/
theorem ReadsObjects.cons {s : Stretch} {next : World → Stretch}
    (h : ReadsObjects b src c i before [key] s)
    (hnext : ∀ w, At c i (before ++ [key]) w →
      ReadsObjects b src c i (before ++ [key]) keys (next w)) :
    ReadsObjects b src c i before (key :: keys) (s.andThen next) := by
  cases h with
  | @upTo post k vs a n f pre hfault hkeys hvs hob hrep =>
    obtain ⟨rfl, rfl, rfl⟩ : pre = [] ∧ k = key ∧ post = [] := by
      cases pre with
      | nil => simpa [eq_comm] using hkeys
      | cons p pre => simp at hkeys
    rw [Stretch.andThen_of_fault_eq_some hfault]
    exact .upTo [] hfault rfl hvs hob hrep
  | @all vs n hfault hvs hw hrep =>
    obtain ⟨vs, ws, hkey, hnil, rfl⟩ := delivered_cons_iff.1 hvs
    rw [Stretch.andThen_of_fault_eq_none hfault]
    rw [objectsEvents_cons hkey, objectsEvents, List.append_nil] at hrep
    cases hnext _ hw with
    | @all us m hfault' hus hw' hrep' =>
      refine .all hfault' (delivered_cons_iff.2 ⟨vs, us, hkey, hus, rfl⟩) ?_ ?_ (n := n + m)
      · rw [List.append_cons]; exact hw'
      · rw [objectsEvents_cons hkey]; exact hrep.append hrep'
    | @upTo post k us a m f pre hfault' hkeys hus hob hrep' =>
      refine .upTo (key :: pre) hfault' (by rw [hkeys]; rfl)
        (delivered_cons_iff.2 ⟨vs, us, hkey, hus, rfl⟩) ?_ ?_ (a := a) (n := n + m)
      · rw [List.append_cons]; exact hob
      · rw [objectsEvents_cons hkey, List.append_assoc]; exact hrep.append hrep'

/-- The key of a listed object, if it is a text. -/
def keyOf (o : Value) : Text :=
  match key? o with
  | .ok key => keyText key
  | .error _ => []

/-- **Reading the objects of a page**, which are listed with their keys. -/
theorem readObjects_course (b : RetryBudget Float) (src : Bucket) {os : List Value}
    (hos : ∀ o ∈ os, ∃ t, key? o = .ok (.text t)) (hw : At c i before w) :
    ReadsObjects b src c i before (os.map keyOf) (readObjects b src os w) := by
  induction os generalizing before w with
  | nil =>
    rw [readObjects]
    exact .all rfl rfl (by rw [List.map_nil, List.append_nil]; exact hw) .nil
  | cons o os ih =>
    obtain ⟨key, hkey⟩ := hos o List.mem_cons_self
    have hkeyOf : keyOf o = key := by rw [keyOf, hkey]; rfl
    simp only [readObjects, hkey, List.map_cons, hkeyOf]
    exact (readObject_course b src hw key).cons fun w' hw' =>
      ih (fun o ho => hos o (List.mem_cons_of_mem _ ho)) hw'

end Bucket

end DeliveryAudit
