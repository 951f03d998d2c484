import DeliveryAudit.Destination.Bucket
import DeliveryAudit.Destination.LogStream
import DeliveryAudit.Proofs.Destination.History
import DeliveryAudit.Proofs.Service.Scripts
/-!
# Calls of a traversal

A call makes its request, repeats it while the answers are throttling,
and goes on with the answer that settles it (`proceed`). On a quiet
script the request is made once (`call_of_isQuiet`); a patient budget
stands what throttling there is (`call_of_isPatient`); and a call that is
not settled gives up, which ends the traversal (`call_course`).
-/

namespace DeliveryAudit

namespace Stretch

variable [Bounds]

/-- The fault of an error that is not throttling. -/
def errorFault (description : String) (e : CallError) : TraversalFault :=
  match e.judge with
  | .failed => .destination (.call (.failed description e))
  | .foreign => .foreign e
  | .unhashable kind => .shape (.unhashable kind)
  | .throttled => .unsettled

/-- What follows the answer that settles a call. -/
def proceed {α : Type} (description : String) (next : α → World → Stretch) (a : Answer Float α)
    (w : World) : Stretch :=
  match a.outcome with
  | .ok v => next v w
  | .error e => stop (errorFault description e) w

variable {α : Type} {b : RetryBudget Float} {description : String} {r : Request} {w : World}
variable {script : Script α} {leave : List (Answer Float α) → Client} {next : α → World → Stretch}

theorem proceed_ok {a : Answer Float α} {v : α} (h : a.outcome = .ok v) :
    proceed description next a w = next v w := by
  rw [proceed, h]

theorem proceed_error {a : Answer Float α} {e : CallError} (h : a.outcome = .error e) :
    proceed description next a w = stop (errorFault description e) w := by
  rw [proceed, h]

/-- A call, by what it is settled with. -/
theorem call_of_settle {a : Answer Float α} {n : Nat} {left : List (Answer Float α)} {t : Float}
    (ha : a.isThrottled = false)
    (h : Settlement.settle b w.clock script.answers script.last = ⟨n, a.verdict, left, t⟩) :
    call b description r w script leave next =
      after (attemptEvents b description r n)
        (proceed description next a { w with client := leave left, clock := t }) := by
  unfold call
  rw [h]
  unfold Answer.isThrottled at ha
  unfold Answer.verdict proceed errorFault
  cases ho : a.outcome with
  | ok v => rfl
  | error e =>
    rw [ho] at ha
    cases hj : e.judge with
    | throttled => simp [hj] at ha
    | failed => simp [hj, stop, faultOf]
    | foreign => simp [hj, stop, faultOf]
    | unhashable kind => simp [hj, stop, faultOf]

/-- **A patient call goes on with the answer that settles it.** -/
theorem call_of_isPatient (description : String) (r : Request) (w : World)
    (leave : List (Answer Float α) → Client) (next : α → World → Stretch)
    (h : b.IsPatient script) :
    ∃ t, call b description r w script leave next =
      after (attemptEvents b description r (script.waits + 1))
        (proceed description next script.next
          { w with client := leave script.rest.answers, clock := t }) := by
  obtain ⟨t, ht⟩ := Settlement.settle_of_isPatient w.clock h
  exact ⟨t, call_of_settle h.1 ht⟩

/-- On a quiet script the request is made once. -/
theorem call_of_isQuiet (b : RetryBudget Float) (description : String) (r : Request) (w : World)
    (leave : List (Answer Float α) → Client) (next : α → World → Stretch) (h : script.IsQuiet) :
    ∃ t, call b description r w script leave next =
      after [.called r] (proceed description next script.next
        { w with client := leave script.rest.answers, clock := t }) := by
  obtain ⟨t, ht⟩ := Settlement.settle_of_isQuiet b w.clock h
  exact ⟨t, call_of_settle h.next_settles ht⟩

/-- **How a call gives up** on a script after so many attempts. -/
inductive GivesUp (b : RetryBudget Float) (description : String) (script : Script α) :
    Nat → TraversalFault → Prop
  /-- A throttling answer exhausts the budget. -/
  | exhausted {n : Nat} {elapsed : Float} {e : CallError} :
      b.exhausted n elapsed = true → e.judge = .throttled → 0 < n →
      (script.next.isThrottled = true ∨ n ≤ script.waits) →
      GivesUp b description script n (.destination (.call (.gaveUp description n elapsed e)))
  /-- Only throttling answers are left, and the budget has no end. -/
  | endless {n : Nat} : script.next.isThrottled = true → GivesUp b description script n .unsettled

/-- **A call goes on with the answer that settles it**, or it gives up. -/
theorem call_course (b : RetryBudget Float) (description : String) (r : Request) (w : World)
    (script : Script α) (leave : List (Answer Float α) → Client) (next : α → World → Stretch) :
    (script.next.isThrottled = false ∧ ∃ t, call b description r w script leave next =
      after (attemptEvents b description r (script.waits + 1))
        (proceed description next script.next
          { w with client := leave script.rest.answers, clock := t })) ∨
    ∃ n f w', GivesUp b description script (n + 1) f ∧
      call b description r w script leave next =
        after (attemptEvents b description r (n + 1)) (stop f w') := by
  have h := Settlement.settle_course b w.clock script
  generalize hs : Settlement.settle b w.clock script.answers script.last = s at h
  cases h with
  | @settled t hnext =>
    rw [Nat.zero_add] at hs
    exact .inl ⟨hnext, t, call_of_settle hnext hs⟩
  | @gaveUp m elapsed t e left hx hj hm =>
    rw [Nat.zero_add] at hm
    exact .inr ⟨m, _, _, .exhausted hx hj (Nat.succ_pos m) hm, by unfold call; rw [hs]; rfl⟩
  | @endless m t left hnext => exact .inr ⟨m, _, _, .endless hnext, by unfold call; rw [hs]; rfl⟩

/-- A patient call does not give up. -/
theorem GivesUp.not_isPatient {n : Nat} {f : TraversalFault}
    (h : GivesUp b description script n f) : ¬ b.IsPatient script := by
  rintro ⟨hnext, hb⟩
  cases h with
  | @exhausted elapsed e hx hj hn hm =>
    rcases hm with hm | hm
    · rw [hnext] at hm; cases hm
    · rw [hb n hn hm] at hx; cases hx
  | endless hm => rw [hnext] at hm; cases hm

end Stretch

namespace Bucket

/-- The text under which an object is asked for, if its key is one. -/
def name? : Value → Option Text
  | .text t => some t
  | _ => none

variable {c : Client} {key : Value} {left : List (Answer Float Body)}

/-- **Leaving answers to an object changes its script alone.** -/
theorem scriptOf_leave (h : left <:+ (scriptOf c key).answers) (k : Value) :
    scriptOf (leave c left key) k =
      if (name? key).isSome ∧ name? k = name? key then ⟨left, (scriptOf c key).last⟩
      else scriptOf c k := by
  unfold leave
  cases key with
  | text t =>
    cases k with
    | text u =>
      simp only [scriptOf, name?, Option.isSome_some, true_and, Option.some.injEq] at h ⊢
      exact Client.objectScript_setObject h _
    | _ =>
      simp only [scriptOf, name?, reduceCtorEq, and_false, if_false]
      unfold Client.setObject
      cases c.objects.lookup t <;> rfl
  | _ => simp [name?]

theorem listingScript_leave (left : List (Answer Float Body)) (key : Value) :
    (leave c left key).listingScript = c.listingScript := by
  cases key <;> simp [leave]

theorem eventScript_leave (left : List (Answer Float Body)) (key : Value) :
    (leave c left key).eventScript = c.eventScript := by
  cases key <;> simp [leave]

end Bucket

/-- The entries of an answer, which a mapping has. -/
def Answer.entries (a : Answer Float Value) : List (Value × Value) :=
  match a.outcome with
  | .ok (.mapping page) => page
  | _ => []

namespace Client

variable [Bounds]

/-- Whether no answer of a client is throttling. -/
structure IsQuiet (c : Client) : Prop where
  listings : c.listingScript.IsQuiet
  events : c.eventScript.IsQuiet
  objects : ∀ key, (Bucket.scriptOf c key).IsQuiet

end Client

end DeliveryAudit
