import DeliveryAudit.Destination.Session
import DeliveryAudit.Proofs.Destination.Objects
/-!
# What a client replies

A client replies to one request after another, each time with the next
answer of the script that the request is for (`Client.reply`). The
requests of a history with their replies are its exchanges
(`Client.exchanges`). In a dialogue the lines of one reply are handed out
before the next request is made; how many pages and objects have been
counted then, and which reply the last line is of, follows from the
requests alone (`Dialogue.counts`, `Dialogue.lines_eq`).
-/

namespace DeliveryAudit

namespace Event

/-- Whether an event is neither said to a client nor handed out: a delay or
a notice. -/
structure IsAside (e : Event) : Prop where
  request : e.request? = none
  line : e.line? = none
  page : e.isPage = false
  object : e.isObject = false

theorem isAside_slept (t : Float) : (slept t).IsAside := ⟨rfl, rfl, rfl, rfl⟩

theorem isAside_logged (n : Notice) : (logged n).IsAside := ⟨rfl, rfl, rfl, rfl⟩

theorem requests_called (r : Request) (es : List Event) :
    (called r :: es).filterMap request? = r :: es.filterMap request? := rfl

end Event

/-- What a client replies with. -/
inductive Reply where
  | page (v : Value)
  | object (body : Body)

/-- The event by which a reply is counted. -/
def Reply.mark : Reply → Event
  | page _ => .page
  | object _ => .object

/-- A request and the reply to it. -/
structure Exchange where
  request : Request
  reply : Except CallError Reply

namespace Exchange

/-- Whether a page was replied with. -/
def isPage : Exchange → Bool
  | ⟨_, .ok (.page _)⟩ => true
  | _ => false

/-- Whether an object was replied with. -/
def isObject : Exchange → Bool
  | ⟨_, .ok (.object _)⟩ => true
  | _ => false

/-- The lines in a reply: those of the events of a page of a log stream,
or those of an object. -/
def lines : Exchange → List Value
  | ⟨.getLogEvents _ _ _, .ok (.page (.mapping page))⟩ =>
    LogStream.pageLines ((LogStream.events page).toOption.getD [])
  | ⟨.getObject _ key, .ok (.object body)⟩ =>
    ((Bucket.objectLines (Bucket.keyText key) body).toOption.getD []).map Bucket.lineOf
  | _ => []

/-- Why the object in a reply has no lines, if it has none. -/
def defect? : Exchange → Option TraversalFault
  | ⟨.getObject _ key, .ok (.object body)⟩ =>
    match Bucket.objectLines (Bucket.keyText key) body with
    | .ok _ => none
    | .error f => some f
  | _ => none

end Exchange

namespace Client

/-- What a client replies to a request, and the client after it. Every
reply uses up an answer, but the last one for an object stays. -/
def reply (c : Client) : Request → Except CallError Reply × Client
  | .listObjects _ _ _ =>
    ((c.listingScript.answerAt 0).outcome.map .page,
      { c with listings := (c.listingScript.skip 1).answers })
  | .getLogEvents _ _ _ =>
    ((c.eventScript.answerAt 0).outcome.map .page,
      { c with events := (c.eventScript.skip 1).answers })
  | .getObject _ key =>
    if key.isHashable then
      (((Bucket.scriptOf c key).answerAt 0).outcome.map .object,
        Bucket.leave c ((Bucket.scriptOf c key).skip 1).answers key)
    else
      (.error (.other "TypeError" (ShapeFault.unhashable key.kindName).message), c)

/-- The replies to requests that are made one after another. -/
def exchanges (c : Client) : List Request → List Exchange
  | [] => []
  | r :: rs => ⟨r, (c.reply r).1⟩ :: (c.reply r).2.exchanges rs

end Client

@[simp] theorem Reply.mark_request? (a : Reply) : a.mark.request? = none := by cases a <;> rfl

@[simp] theorem Reply.mark_line? (a : Reply) : a.mark.line? = none := by cases a <;> rfl

/-- **A dialogue of a reader with a client**, from where the client stands
and the lines of the last reply that are still to be handed out, to where
the two stand after these events. Only when all lines have been handed out
is the next request made. -/
inductive Dialogue : Client → List Value → List Event → Client → List Value → Prop
  | nil {c : Client} {vs : List Value} : Dialogue c vs [] c vs
  | failed {c c' : Client} {vs : List Value} {r : Request} {e : CallError} {es : List Event} :
      (c.reply r).1 = .error e → Dialogue (c.reply r).2 [] es c' vs →
      Dialogue c [] (.called r :: es) c' vs
  | answered {c c' : Client} {vs : List Value} {r : Request} {a : Reply} {es : List Event} :
      (c.reply r).1 = .ok a → Dialogue (c.reply r).2 (Exchange.lines ⟨r, .ok a⟩) es c' vs →
      Dialogue c [] (.called r :: a.mark :: es) c' vs
  | line {c c' : Client} {us vs : List Value} {v : Value} {es : List Event} :
      Dialogue c us es c' vs → Dialogue c (v :: us) (.line v :: es) c' vs
  /-- Delays and notices are no part of what is said. -/
  | aside {c c' : Client} {us vs : List Value} {e : Event} {es : List Event} :
      e.IsAside → Dialogue c us es c' vs → Dialogue c us (e :: es) c' vs

namespace Dialogue

variable {c c' c'' : Client} {us vs ws : List Value} {v : Value} {es fs : List Event}

theorem append (h : Dialogue c us es c' vs) (h' : Dialogue c' vs fs c'' ws) :
    Dialogue c us (es ++ fs) c'' ws := by
  induction h with
  | nil => exact h'
  | failed hr _ ih => exact .failed hr (ih h')
  | answered hr _ ih => exact .answered hr (ih h')
  | line _ ih => exact .line (ih h')
  | aside he _ ih => exact .aside he (ih h')

/-- Lines that are still to be handed out are handed out. -/
theorem map_line (us vs : List Value) : Dialogue c (us ++ vs) (us.map Event.line) c vs := by
  induction us with
  | nil => exact .nil
  | cons v us ih => exact .line ih

/-- **A dialogue up to a line**: just before it, the line is the next one
to be handed out. -/
theorem upTo_line (h : Dialogue c us (es ++ .line v :: fs) c' vs) :
    ∃ c₁ ws, Dialogue c us es c₁ (v :: ws) := by
  generalize hall : es ++ .line v :: fs = all at h
  induction h generalizing es with
  | nil => simp at hall
  | failed hr _ ih =>
    rcases List.append_eq_cons_iff.1 hall with ⟨-, hline⟩ | ⟨es', rfl, hrest⟩
    · cases hline
    · obtain ⟨c₁, ws, h⟩ := ih hrest.symm
      exact ⟨c₁, ws, .failed hr h⟩
  | @answered c c' vs r a all hr _ ih =>
    rcases List.append_eq_cons_iff.1 hall with ⟨-, hline⟩ | ⟨es', rfl, hrest⟩
    · cases hline
    · -- The mark of the reply is no line either.
      rcases List.append_eq_cons_iff.1 hrest.symm with ⟨-, hline⟩ | ⟨es'', rfl, hrest'⟩
      · have hmark := congrArg Event.line? (List.cons.inj hline).1
        rw [Reply.mark_line?] at hmark
        cases hmark
      · obtain ⟨c₁, ws, h⟩ := ih hrest'.symm
        exact ⟨c₁, ws, .answered hr h⟩
  | @line c c' us vs u all _ ih =>
    rcases List.append_eq_cons_iff.1 hall with ⟨rfl, hline⟩ | ⟨es', rfl, hrest⟩
    · obtain ⟨hv, -⟩ := List.cons.inj hline
      cases hv
      exact ⟨c, us, .nil⟩
    · obtain ⟨c₁, ws, h⟩ := ih hrest.symm
      exact ⟨c₁, ws, .line h⟩
  | @aside c c' us vs e all he _ ih =>
    rcases List.append_eq_cons_iff.1 hall with ⟨-, hline⟩ | ⟨es', rfl, hrest⟩
    · have hv := congrArg Event.line? (List.cons.inj hline).1
      rw [he.line] at hv
      cases hv
    · obtain ⟨c₁, ws, h⟩ := ih hrest.symm
      exact ⟨c₁, ws, .aside he h⟩

/-- After a dialogue, the client goes on from where it stands. -/
theorem exchanges_append (h : Dialogue c us es c' vs) (rs : List Request) :
    c.exchanges (es.filterMap Event.request? ++ rs) =
      c.exchanges (es.filterMap Event.request?) ++ c'.exchanges rs := by
  induction h with
  | nil => rfl
  | failed hr _ ih => exact congrArg (_ :: ·) ih
  | @answered c c' vs r a es hr _ ih =>
    rw [Event.requests_called, List.filterMap_cons_none a.mark_request?]
    exact congrArg (_ :: ·) ih
  | line _ ih => exact ih
  | aside he _ ih => rw [List.filterMap_cons_none he.request]; exact ih

/-- **The counters count the replies**: so many pages and objects have been
answered as were replied with. -/
theorem counts (h : Dialogue c us es c' vs) :
    let xs := c.exchanges (es.filterMap Event.request?)
    es.countP Event.isPage = xs.countP Exchange.isPage ∧
      es.countP Event.isObject = xs.countP Exchange.isObject := by
  induction h with
  | nil => exact ⟨rfl, rfl⟩
  | @failed c c' vs r e es hr _ ih =>
    rw [Event.requests_called, Client.exchanges, hr]
    simp only [List.countP_cons, ih.1, ih.2]
    exact ⟨rfl, rfl⟩
  | @answered c c' vs r a es hr _ ih =>
    rw [Event.requests_called, List.filterMap_cons_none a.mark_request?, Client.exchanges, hr]
    simp only [List.countP_cons, ih.1, ih.2]
    cases a with
    | page v => exact ⟨rfl, rfl⟩
    | object body => exact ⟨rfl, rfl⟩
  | line _ ih =>
    simp only [List.countP_cons, ih.1, ih.2]
    exact ⟨rfl, rfl⟩
  | aside he _ ih =>
    rw [List.filterMap_cons_none he.request]
    simp only [List.countP_cons, he.page, he.object, ih.1, ih.2]
    exact ⟨rfl, rfl⟩

/-- **Lines come from the last reply.** Either no request has been made, or
all the lines of the replies before the last one have been handed out, and
those of the last one up to the lines that are left. -/
theorem lines_eq (h : Dialogue c us es c' vs) :
    (es.filterMap Event.request? = [] ∧ us = es.filterMap Event.line? ++ vs) ∨
      ∃ before x ls, c.exchanges (es.filterMap Event.request?) = before ++ [x] ∧
        x.lines = ls ++ vs ∧
        es.filterMap Event.line? = us ++ before.flatMap Exchange.lines ++ ls := by
  induction h with
  | nil => exact .inl ⟨rfl, rfl⟩
  | @failed c c' vs r e es hr hrest ih =>
    have hlines : Exchange.lines ⟨r, .error e⟩ = [] := by cases r <;> rfl
    rw [Event.requests_called, List.filterMap_cons_none rfl, Client.exchanges, hr]
    rcases ih with ⟨hnone, hnil⟩ | ⟨before, x, ls, hx, hls, hes⟩
    · obtain ⟨hes, hvs⟩ := List.append_eq_nil_iff.1 hnil.symm
      rw [hnone, hes, hvs]
      exact .inr ⟨[], _, [], rfl, hlines, rfl⟩
    · rw [hx, hes]
      exact .inr ⟨_ :: before, x, ls, rfl, hls, by rw [List.flatMap_cons, hlines]; rfl⟩
  | @answered c c' vs r a es hr hrest ih =>
    rw [Event.requests_called, List.filterMap_cons_none a.mark_request?,
      List.filterMap_cons_none rfl, List.filterMap_cons_none a.mark_line?, Client.exchanges, hr]
    rcases ih with ⟨hnone, hlines⟩ | ⟨before, x, ls, hx, hls, hes⟩
    · rw [hnone]
      exact .inr ⟨[], _, _, rfl, hlines, rfl⟩
    · rw [hx, hes]
      exact .inr ⟨_ :: before, x, ls, rfl, hls, by rw [List.flatMap_cons]; rfl⟩
  | @line c c' us vs v es _ ih =>
    have hline : Event.line? (.line v) = some v := rfl
    rw [List.filterMap_cons_some hline]
    rcases ih with ⟨hnone, hus⟩ | ⟨before, x, ls, hx, hls, hes⟩
    · exact .inl ⟨hnone, by rw [hus]; rfl⟩
    · exact .inr ⟨before, x, ls, hx, hls, by rw [hes]; rfl⟩
  | aside he _ ih =>
    rw [List.filterMap_cons_none he.request, List.filterMap_cons_none he.line]
    exact ih

end Dialogue

/-! ## Scripts, answer by answer -/

namespace Script

variable {α : Type}

theorem answerAt_skip (s : Script α) (i j : Nat) : (s.skip i).answerAt j = s.answerAt (i + j) := by
  simp [answerAt, skip, List.getD_eq_getElem?_getD]

theorem answers_skip_skip (s : Script α) (i j : Nat) :
    ((s.skip i).skip j).answers = (s.skip (i + j)).answers := by
  simp [skip]

end Script

/-- Whether a client replies to a request by a script, when it is left with
answers of it. -/
def RepliesBy {α : Type} (r : Request) (wrap : α → Reply) (s : Script α)
    (leave : List (Answer Float α) → Client) : Prop :=
  ∀ i, (leave (s.skip i).answers).reply r =
    ((s.answerAt i).outcome.map wrap, leave (s.skip (i + 1)).answers)

theorem repliesBy_listings (c : Client) (bucket stem : String) (token : Option Value) :
    RepliesBy (.listObjects bucket stem token) .page c.listingScript
      fun left => { c with listings := left } := by
  intro i
  have hanswer := c.listingScript.answerAt_skip i 0
  have hleft := c.listingScript.answers_skip_skip i 1
  exact Prod.ext (congrArg (fun a => a.outcome.map Reply.page) hanswer)
    (congrArg (fun left => ({ c with listings := left } : Client)) hleft)

theorem repliesBy_events (c : Client) (group stream : String) (token : Option Value) :
    RepliesBy (.getLogEvents group stream token) .page c.eventScript
      fun left => { c with events := left } := by
  intro i
  have hanswer := c.eventScript.answerAt_skip i 0
  have hleft := c.eventScript.answers_skip_skip i 1
  exact Prod.ext (congrArg (fun a => a.outcome.map Reply.page) hanswer)
    (congrArg (fun left => ({ c with events := left } : Client)) hleft)

theorem repliesBy_object (c : Client) (bucket : String) {key : Value}
    (hkey : key.isHashable = true) :
    RepliesBy (.getObject bucket key) .object (Bucket.scriptOf c key)
      fun left => Bucket.leave c left key := by
  intro i
  have hsuffix : ((Bucket.scriptOf c key).skip i).answers <:+ (Bucket.scriptOf c key).answers :=
    List.drop_suffix _ _
  have hscript : Bucket.scriptOf (Bucket.leave c ((Bucket.scriptOf c key).skip i).answers key) key =
      (Bucket.scriptOf c key).skip i := by
    rw [Bucket.scriptOf_leave hsuffix]
    cases key with
    | text t => simp [Bucket.name?, Script.skip]
    | _ => simp [Bucket.name?, Bucket.scriptOf, Script.skip]
  have hleave : ∀ left, Bucket.leave (Bucket.leave c ((Bucket.scriptOf c key).skip i).answers key)
      left key = Bucket.leave c left key := by
    intro left
    cases key with
    | text t => exact Client.setObject_setObject hsuffix
    | _ => rfl
  rw [Client.reply, if_pos hkey, hscript, hleave, Script.answerAt_skip, Script.answers_skip_skip]
  rfl

/-- Left with the answers that it has, a client is the same. -/
theorem Bucket.leave_self (c : Client) (key : Value) :
    Bucket.leave c (Bucket.scriptOf c key).answers key = c := by
  cases key with
  | text t => exact Client.setObject_self
  | _ => rfl

end DeliveryAudit
