import DeliveryAudit.Proofs.Destination.Calls
import Mathlib.Algebra.GroupWithZero.Nat
/-!
# Throttled scripts

A script is throttled by putting throttling answers in front of its
answers, no more at a time than a budget stands. A call on the throttled
script meets those answers, is settled by the same answer as before, and
leaves what is left before, throttled (`Throttled.next_eq`,
`Throttled.rest`). The same is said of a client as a whole, whose
throttling answers are counted (`Client.throttles`): what a call meets is
what the count goes down by.
-/

namespace DeliveryAudit

/-- Whether a budget stands so many throttling answers in a row. -/
def RetryBudget.Stands (b : RetryBudget Float) (n : Nat) : Prop :=
  b.maxAttempts = 0 ∨ (n : Int) < b.maxAttempts

/-- Without a limit of time, a budget that stands `m` throttling answers is
not exhausted by the first `m`. -/
theorem RetryBudget.Stands.not_exhausted {b : RetryBudget Float} {n m : Nat} {elapsed : Float}
    (h : b.Stands m) (htime : Time.isZero b.maxDuration = true) (hn : n ≤ m) :
    b.exhausted n elapsed = false := by
  have hattempts : b.maxAttempts = 0 ∨ ¬ b.maxAttempts ≤ n := h.imp_right fun h => by omega
  rcases hattempts with h0 | hlt
  · simp [exhausted, htime, h0]
  · simp [exhausted, htime, hlt]

/-- A budget that stands some throttling answers stands fewer. -/
theorem RetryBudget.Stands.mono {b : RetryBudget Float} {n m : Nat} (h : b.Stands m)
    (hn : n ≤ m) : b.Stands n :=
  h.imp_right fun h => by omega

section Answers

variable {α : Type} {b : RetryBudget Float}
variable [Bounds]

/-- **Throttled answers.** The second list is the first with throttling
answers put in front of its members, and of what comes after them. -/
inductive ThrottledAnswers (b : RetryBudget Float) :
    List (Answer Float α) → List (Answer Float α) → Prop
  | done {pre : List (Answer Float α)} : (∀ p ∈ pre, p.isThrottled = true) →
      b.Stands pre.length → ThrottledAnswers b [] pre
  | answer {as bs : List (Answer Float α)} {a : Answer Float α} (pre : List (Answer Float α)) :
      (∀ p ∈ pre, p.isThrottled = true) → b.Stands pre.length → ThrottledAnswers b as bs →
      ThrottledAnswers b (a :: as) (pre ++ a :: bs)

namespace Script

/-- A script and the same script, throttled. -/
structure Throttled (b : RetryBudget Float) (s s' : Script α) : Prop where
  last : s'.last = s.last
  answers : ThrottledAnswers b s.answers s'.answers

/-- How many answers of a script are throttling. -/
def throttles (s : Script α) : Nat := s.answers.countP Answer.isThrottled

/-- A call uses up the throttling answers that it meets. -/
theorem throttles_eq (s : Script α) : s.throttles = s.waits + s.rest.throttles := by
  obtain ⟨as, last⟩ := s
  induction as with
  | nil => rfl
  | cons a as ih =>
    unfold throttles at ih ⊢
    cases ha : a.isThrottled with
    | true =>
      rw [waits_cons_of_throttled ha, rest_cons_of_throttled ha, List.countP_cons_of_pos ha, ih]
      omega
    | false =>
      rw [waits_cons_of_not_throttled ha, rest_cons_of_not_throttled ha,
        List.countP_cons_of_neg (by simp [ha]), Nat.zero_add]

variable {pre as bs : List (Answer Float α)} {last : Answer Float α} {s s' : Script α}

theorem next_throttled_append (as : List (Answer Float α)) (last : Answer Float α)
    (hpre : ∀ p ∈ pre, p.isThrottled = true) :
    (⟨pre ++ as, last⟩ : Script α).next = (⟨as, last⟩ : Script α).next := by
  rw [next, next, List.dropWhile_append_of_pos hpre]

theorem rest_throttled_append (as : List (Answer Float α)) (last : Answer Float α)
    (hpre : ∀ p ∈ pre, p.isThrottled = true) :
    (⟨pre ++ as, last⟩ : Script α).rest = (⟨as, last⟩ : Script α).rest := by
  rw [rest, rest, List.dropWhile_append_of_pos hpre]

theorem waits_throttled_append (as : List (Answer Float α)) (last : Answer Float α)
    (hpre : ∀ p ∈ pre, p.isThrottled = true) :
    (⟨pre ++ as, last⟩ : Script α).waits = pre.length + (⟨as, last⟩ : Script α).waits := by
  rw [waits, waits, List.takeWhile_append_of_pos hpre, List.length_append]

/-- **A call on throttled answers** is settled by the same answer, after
as many throttling ones as the budget stands, and leaves throttled
answers. -/
theorem call_of_throttledAnswers (h : ThrottledAnswers b as bs)
    (hq : (⟨as, last⟩ : Script α).IsQuiet) :
    (⟨bs, last⟩ : Script α).next = (⟨as, last⟩ : Script α).next ∧
      b.Stands (⟨bs, last⟩ : Script α).waits ∧
      ThrottledAnswers b (⟨as, last⟩ : Script α).rest.answers
        (⟨bs, last⟩ : Script α).rest.answers := by
  cases h with
  | done hpre hb =>
    have hnext := next_throttled_append [] last hpre
    have hrest := rest_throttled_append [] last hpre
    have hwaits := waits_throttled_append [] last hpre
    rw [List.append_nil] at hnext hrest hwaits
    rw [hnext, hrest, hwaits]
    exact ⟨rfl, hb, .done (by simp) (hb.mono (Nat.zero_le _))⟩
  | @answer as bs a pre hpre hb has =>
    have ha : a.isThrottled = false := hq.1 a List.mem_cons_self
    rw [next_throttled_append _ _ hpre, rest_throttled_append _ _ hpre,
      waits_throttled_append _ _ hpre, next_cons_of_not_throttled ha,
      next_cons_of_not_throttled ha, rest_cons_of_not_throttled ha, rest_cons_of_not_throttled ha,
      waits_cons_of_not_throttled ha]
    exact ⟨rfl, hb, has⟩

namespace Throttled

theorem next_eq (h : s.Throttled b s') (hq : s.IsQuiet) : s'.next = s.next := by
  obtain ⟨as, last⟩ := s
  obtain ⟨bs, last'⟩ := s'
  obtain ⟨rfl, h⟩ := h
  exact (call_of_throttledAnswers h hq).1

theorem stands_waits (h : s.Throttled b s') (hq : s.IsQuiet) : b.Stands s'.waits := by
  obtain ⟨as, last⟩ := s
  obtain ⟨bs, last'⟩ := s'
  obtain ⟨rfl, h⟩ := h
  exact (call_of_throttledAnswers h hq).2.1

theorem rest (h : s.Throttled b s') (hq : s.IsQuiet) : s.rest.Throttled b s'.rest := by
  obtain ⟨as, last⟩ := s
  obtain ⟨bs, last'⟩ := s'
  obtain ⟨rfl, h⟩ := h
  exact ⟨rfl, (call_of_throttledAnswers h hq).2.2⟩

end Throttled

end Script

end Answers

namespace Client

variable [Bounds]

/-- A client and the same client with its scripts throttled. -/
structure Throttled (b : RetryBudget Float) (c c' : Client) : Prop where
  listings : c.listingScript.Throttled b c'.listingScript
  events : c.eventScript.Throttled b c'.eventScript
  objects : ∀ key, (Bucket.scriptOf c key).Throttled b (Bucket.scriptOf c' key)

/-- How many answers of a client are throttling. -/
def throttles (c : Client) : Nat :=
  c.listings.countP Answer.isThrottled + c.events.countP Answer.isThrottled +
    (c.objects.map fun o => o.2.countP Answer.isThrottled).sum

variable {b : RetryBudget Float} {c c' : Client}

/-! ## What is left after a call -/

theorem IsQuiet.leave_listings (h : c.IsQuiet) :
    ({ c with listings := c.listingScript.rest.answers } : Client).IsQuiet :=
  ⟨h.listings.rest, h.events, h.objects⟩

theorem IsQuiet.leave_events (h : c.IsQuiet) :
    ({ c with events := c.eventScript.rest.answers } : Client).IsQuiet :=
  ⟨h.listings, h.events.rest, h.objects⟩

theorem IsQuiet.leave (h : c.IsQuiet) (key : Value) :
    (Bucket.leave c (Bucket.scriptOf c key).rest.answers key).IsQuiet where
  listings := by rw [Bucket.listingScript_leave]; exact h.listings
  events := by rw [Bucket.eventScript_leave]; exact h.events
  objects k := by
    rw [Bucket.scriptOf_leave (Script.rest_answers_suffix _)]
    split
    · exact (h.objects key).rest
    · exact h.objects k

theorem Throttled.leave_listings (h : c.Throttled b c') (hq : c.IsQuiet) :
    Throttled b { c with listings := c.listingScript.rest.answers }
      { c' with listings := c'.listingScript.rest.answers } :=
  ⟨h.listings.rest hq.listings, h.events, h.objects⟩

theorem Throttled.leave_events (h : c.Throttled b c') (hq : c.IsQuiet) :
    Throttled b { c with events := c.eventScript.rest.answers }
      { c' with events := c'.eventScript.rest.answers } :=
  ⟨h.listings, h.events.rest hq.events, h.objects⟩

theorem Throttled.leave (h : c.Throttled b c') (hq : c.IsQuiet) (key : Value) :
    Throttled b (Bucket.leave c (Bucket.scriptOf c key).rest.answers key)
      (Bucket.leave c' (Bucket.scriptOf c' key).rest.answers key) where
  listings := by rw [Bucket.listingScript_leave, Bucket.listingScript_leave]; exact h.listings
  events := by rw [Bucket.eventScript_leave, Bucket.eventScript_leave]; exact h.events
  objects k := by
    rw [Bucket.scriptOf_leave (Script.rest_answers_suffix _),
      Bucket.scriptOf_leave (Script.rest_answers_suffix _)]
    split
    · exact (h.objects key).rest (hq.objects key)
    · exact h.objects k

/-! ## Counting throttling answers -/

theorem throttles_leave_listings : c.throttles = c.listingScript.waits +
    ({ c with listings := c.listingScript.rest.answers } : Client).throttles := by
  have h := c.listingScript.throttles_eq
  simp only [Script.throttles] at h
  simp only [throttles]
  rw [show c.listings = c.listingScript.answers from rfl, h]
  omega

theorem throttles_leave_events : c.throttles = c.eventScript.waits +
    ({ c with events := c.eventScript.rest.answers } : Client).throttles := by
  have h := c.eventScript.throttles_eq
  simp only [Script.throttles] at h
  simp only [throttles]
  rw [show c.events = c.eventScript.answers from rfl, h]
  omega

omit [Bounds] in
theorem sum_replaceKey {α : Type} {f : α → Nat} {key : Text} {v w : α} {l : List (Text × α)}
    (h : l.lookup key = some w) :
    ((replaceKey key v l).map fun o => f o.2).sum + f w = (l.map fun o => f o.2).sum + f v := by
  induction l with
  | nil => cases h
  | cons p l ih =>
    obtain ⟨k, u⟩ := p
    rw [lookup_cons_eq] at h
    rw [replaceKey]
    by_cases hk : key = k
    · rw [if_pos hk] at h
      cases h
      rw [if_pos (by simpa using hk.symm)]
      simp only [List.map_cons, List.sum_cons]
      omega
    · rw [if_neg hk] at h
      rw [if_neg (by simpa using Ne.symm hk)]
      have := ih h
      simp only [List.map_cons, List.sum_cons]
      omega

theorem throttles_setObject (key : Text) : c.throttles = (c.objectScript key).waits +
    (c.setObject key (c.objectScript key).rest.answers).throttles := by
  unfold setObject objectScript
  cases hl : c.objects.lookup key with
  | none => simp
  | some answers =>
    simp only [throttles]
    cases ha : answers.getLast? with
    | none =>
      have h := sum_replaceKey (f := List.countP Answer.isThrottled) (v := []) hl
      rw [List.getLast?_eq_none_iff.1 ha] at h ⊢
      simp only [List.countP_nil, Nat.add_zero] at h
      simp [h]
    | some a =>
      obtain ⟨before, rfl⟩ := List.getLast?_eq_some_iff.1 ha
      have h := sum_replaceKey (f := List.countP Answer.isThrottled)
        (v := (⟨before, a⟩ : Script Body).rest.answers ++ [a]) hl
      have hs := (⟨before, a⟩ : Script Body).throttles_eq
      simp only [List.countP_append, Script.throttles] at h hs
      simp only [Option.toList_some, List.dropLast_concat]
      omega

/-- **What a call for an object meets** is what the count goes down by. -/
theorem throttles_leave (key : Value) : c.throttles = (Bucket.scriptOf c key).waits +
    (Bucket.leave c (Bucket.scriptOf c key).rest.answers key).throttles := by
  cases key with
  | text t => exact throttles_setObject _
  | _ => simp [Bucket.scriptOf, Bucket.leave]

end Client

end DeliveryAudit
