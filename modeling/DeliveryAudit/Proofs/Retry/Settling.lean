import DeliveryAudit.Retry.Settlement
/-!
# The answer that settles a call

A call goes through the throttling answers at the front of its script and
is settled by the first other one (`Script.next`), which leaves the rest
of the script to the next call (`Script.rest`). Otherwise its budget is
exhausted over throttling answers, or they go on without an end. `Course`
lists these three, and `settle_course` says that there is no fourth.
-/

namespace DeliveryAudit

variable [Bounds]

namespace Answer

variable {τ α : Type}

/-- Whether an answer is throttling. -/
def isThrottled (a : Answer τ α) : Bool :=
  match a.outcome with
  | .ok _ => false
  | .error e => e.judge == .throttled

/-- What an answer settles that is not throttling. -/
def verdict (a : Answer τ α) : Verdict τ α :=
  match a.outcome with
  | .ok v => .value v
  | .error e =>
    match e.judge with
    | .failed => .failed e
    | .foreign => .foreign e
    | .unhashable kind => .unhashable kind
    | .throttled => .unsettled

theorem isThrottled_iff {a : Answer τ α} :
    a.isThrottled = true ↔ ∃ e, a.outcome = .error e ∧ e.judge = .throttled := by
  unfold isThrottled
  cases a.outcome with
  | ok v => simp
  | error e => simp

@[simp] theorem isThrottled_ok {t : τ} {v : α} : (⟨t, .ok v⟩ : Answer τ α).isThrottled = false :=
  rfl

end Answer

namespace Script

variable {α : Type}

/-- Whether no answer of a script is throttling. -/
def IsQuiet (s : Script α) : Prop :=
  (∀ a ∈ s.answers, a.isThrottled = false) ∧ s.last.isThrottled = false

/-- How many throttling answers a call meets first. -/
def waits (s : Script α) : Nat := (s.answers.takeWhile Answer.isThrottled).length

/-- The first answer that is not throttling, or the one that stays. -/
def next (s : Script α) : Answer Float α :=
  (s.answers.dropWhile Answer.isThrottled).headD s.last

/-- What the call that `next` settles leaves. -/
def rest (s : Script α) : Script α := ⟨(s.answers.dropWhile Answer.isThrottled).tail, s.last⟩

@[simp] theorem rest_last (s : Script α) : s.rest.last = s.last := rfl

@[simp] theorem waits_nil {l : Answer Float α} : (⟨[], l⟩ : Script α).waits = 0 := rfl

@[simp] theorem next_nil {l : Answer Float α} : (⟨[], l⟩ : Script α).next = l := rfl

@[simp] theorem rest_nil {l : Answer Float α} : (⟨[], l⟩ : Script α).rest = ⟨[], l⟩ := rfl

/-- What a call leaves is a last part of the answers. -/
theorem rest_answers_suffix (s : Script α) : s.rest.answers <:+ s.answers :=
  (List.tail_suffix _).trans (List.dropWhile_suffix _)

section Cons

variable {a l : Answer Float α} {as : List (Answer Float α)}

theorem waits_cons_of_throttled (h : a.isThrottled = true) :
    (⟨a :: as, l⟩ : Script α).waits = (⟨as, l⟩ : Script α).waits + 1 := by
  simp [waits, h]

theorem next_cons_of_throttled (h : a.isThrottled = true) :
    (⟨a :: as, l⟩ : Script α).next = (⟨as, l⟩ : Script α).next := by
  simp [next, h]

theorem rest_cons_of_throttled (h : a.isThrottled = true) :
    (⟨a :: as, l⟩ : Script α).rest = (⟨as, l⟩ : Script α).rest := by
  simp [rest, h]

theorem waits_cons_of_not_throttled (h : a.isThrottled = false) :
    (⟨a :: as, l⟩ : Script α).waits = 0 := by
  simp [waits, h]

theorem next_cons_of_not_throttled (h : a.isThrottled = false) :
    (⟨a :: as, l⟩ : Script α).next = a := by
  simp [next, h]

theorem rest_cons_of_not_throttled (h : a.isThrottled = false) :
    (⟨a :: as, l⟩ : Script α).rest = ⟨as, l⟩ := by
  simp [rest, h]

end Cons

/-- A call meets no throttling answer in a quiet script. -/
theorem IsQuiet.waits_eq_zero {s : Script α} (h : s.IsQuiet) : s.waits = 0 := by
  obtain ⟨answers, last⟩ := s
  cases answers with
  | nil => rfl
  | cons a as => exact waits_cons_of_not_throttled (h.1 a List.mem_cons_self)

theorem IsQuiet.next_settles {s : Script α} (h : s.IsQuiet) : s.next.isThrottled = false := by
  obtain ⟨answers, last⟩ := s
  cases answers with
  | nil => exact h.2
  | cons a as =>
    have ha : a.isThrottled = false := h.1 a List.mem_cons_self
    rw [next_cons_of_not_throttled ha]
    exact ha

/-- What a call leaves of a quiet script is quiet. -/
theorem IsQuiet.rest {s : Script α} (h : s.IsQuiet) : s.rest.IsQuiet :=
  ⟨fun a ha => h.1 a ((List.dropWhile_suffix _).subset (List.mem_of_mem_tail ha)), h.2⟩

/-- The answer that stands at a place in a script, counted from 0. -/
def answerAt (s : Script α) (i : Nat) : Answer Float α := s.answers.getD i s.last

/-- A script without its first answers. -/
def skip (s : Script α) (i : Nat) : Script α := ⟨s.answers.drop i, s.last⟩

theorem IsQuiet.skip {s : Script α} (h : s.IsQuiet) (i : Nat) : (s.skip i).IsQuiet :=
  ⟨fun a ha => h.1 a (List.mem_of_mem_drop ha), h.2⟩

/-- A call on a quiet script is settled by the answer at its place. -/
theorem IsQuiet.next_skip {s : Script α} (h : s.IsQuiet) (i : Nat) :
    (s.skip i).next = s.answerAt i := by
  have hq := h.skip i
  unfold Script.skip at hq ⊢
  unfold answerAt
  rw [List.getD_eq_getElem?_getD, ← List.head?_drop]
  cases hd : s.answers.drop i with
  | nil => rfl
  | cons a as =>
    rw [hd] at hq
    rw [next_cons_of_not_throttled (hq.1 a List.mem_cons_self)]
    rfl

/-- A call on a quiet script leaves what stands after its answer. -/
theorem IsQuiet.rest_skip {s : Script α} (h : s.IsQuiet) (i : Nat) :
    (s.skip i).rest = s.skip (i + 1) := by
  have hq := h.skip i
  unfold Script.skip at hq ⊢
  rw [← List.tail_drop]
  cases hd : s.answers.drop i with
  | nil => rfl
  | cons a as =>
    rw [hd] at hq
    rw [rest_cons_of_not_throttled (hq.1 a List.mem_cons_self)]
    rfl

/-- What so many calls leave of a script. -/
def remaining (s : Script α) : Nat → Script α
  | 0 => s
  | n + 1 => (s.remaining n).rest

theorem IsQuiet.remaining {s : Script α} (h : s.IsQuiet) (n : Nat) : (s.remaining n).IsQuiet := by
  induction n with
  | zero => exact h
  | succ n ih => exact ih.rest

end Script

/-- Whether a budget is patient with a script: it stands the throttling
answers in front of the first other one, whatever time they take. -/
def RetryBudget.IsPatient {α : Type} (b : RetryBudget Float) (s : Script α) : Prop :=
  s.next.isThrottled = false ∧
    ∀ n : Nat, 0 < n → n ≤ s.waits → ∀ elapsed, b.exhausted n elapsed = false

/-- Any budget is patient with a quiet script. -/
theorem Script.IsQuiet.isPatient {α : Type} {s : Script α} (h : s.IsQuiet)
    (b : RetryBudget Float) : b.IsPatient s :=
  ⟨h.next_settles, fun n hpos hn => absurd hn (by rw [h.waits_eq_zero]; omega)⟩

namespace Settlement

/-- **How a call goes** on a script after `n` attempts. -/
inductive Course {α : Type} (b : RetryBudget Float) (s : Script α) (n : Nat) :
    Settlement Float α → Prop
  /-- The first answer that is not throttling settles it. -/
  | settled {t : Float} : s.next.isThrottled = false →
      Course b s n ⟨n + s.waits + 1, s.next.verdict, s.rest.answers, t⟩
  /-- A throttling answer exhausts the budget. -/
  | gaveUp {m : Nat} {elapsed t : Float} {e : CallError} {left : List (Answer Float α)} :
      b.exhausted (m + 1 : Nat) elapsed = true → e.judge = .throttled →
      (s.next.isThrottled = true ∨ m + 1 ≤ n + s.waits) →
      Course b s n ⟨m + 1, .gaveUp elapsed e, left, t⟩
  /-- Only throttling answers are left, and the budget has no end. -/
  | endless {m : Nat} {t : Float} {left : List (Answer Float α)} :
      s.next.isThrottled = true → Course b s n ⟨m + 1, .unsettled, left, t⟩

section Verdict

variable {τ α : Type} [Time τ] {b : RetryBudget τ} {a : Answer τ α} {e : CallError}
variable {n : Nat} {t : τ}

/-- An answer that is not throttling settles a call. -/
theorem verdict?_of_not_throttled (h : a.isThrottled = false) :
    verdict? b n t a.outcome = some a.verdict := by
  unfold Answer.isThrottled at h
  unfold verdict? Answer.verdict
  cases ho : a.outcome with
  | ok v => rfl
  | error e =>
    rw [ho] at h
    cases hj : e.judge with
    | throttled => simp [hj] at h
    | failed => simp only [hj]
    | foreign => simp only [hj]
    | unhashable kind => simp only [hj]

/-- A throttling answer settles a call only by exhausting its budget. -/
theorem verdict?_of_throttled (ho : a.outcome = .error e) (hj : e.judge = .throttled) :
    verdict? b n t a.outcome = if b.exhausted n t then some (.gaveUp t e) else none := by
  simp [verdict?, ho, hj]

end Verdict

variable {α : Type} {b : RetryBudget Float} {started : Float}

/-- A throttling answer in front is one more attempt. -/
theorem Course.cons {a last : Answer Float α} {as : List (Answer Float α)} {n : Nat}
    {r : Settlement Float α} (ha : a.isThrottled = true) (h : Course b ⟨as, last⟩ (n + 1) r) :
    Course b ⟨a :: as, last⟩ n r := by
  have hnext : (⟨a :: as, last⟩ : Script α).next = (⟨as, last⟩ : Script α).next :=
    Script.next_cons_of_throttled ha
  have hwaits : (⟨a :: as, last⟩ : Script α).waits = (⟨as, last⟩ : Script α).waits + 1 :=
    Script.waits_cons_of_throttled ha
  cases h with
  | @settled t hs =>
    have h := Course.settled (b := b) (n := n) (t := t) (hnext.symm ▸ hs)
    rw [hnext, hwaits, Script.rest_cons_of_throttled ha] at h
    rw [show n + 1 + (⟨as, last⟩ : Script α).waits + 1 =
      n + ((⟨as, last⟩ : Script α).waits + 1) + 1 by omega]
    exact h
  | gaveUp hx hj hm =>
    exact .gaveUp hx hj (by rw [hnext, hwaits]; exact hm.imp_right fun h => by omega)
  | endless hs => exact .endless (hnext.symm ▸ hs)

/-- The course of a call on the answer that comes again and again. -/
theorem settleBy_course (last : Answer Float α) (followed n : Nat) (clock : Float) :
    Course b ⟨[], last⟩ n (settleBy b started last (followed + 1) n clock) := by
  cases hl : last.isThrottled with
  | false =>
    rw [settleBy, verdict?_of_not_throttled hl]
    exact .settled hl
  | true =>
    obtain ⟨e, ho, hj⟩ := Answer.isThrottled_iff.1 hl
    -- What matters is that attempts are made, not how many: `n` grows in the induction.
    suffices h : ∀ n clock, ∃ m v t, settleBy b started last (followed + 1) n clock =
        ⟨m + 1, v, [], t⟩ ∧ (v = .unsettled ∨ ∃ elapsed, v = .gaveUp elapsed e ∧
          b.exhausted (m + 1 : Nat) elapsed = true) by
      obtain ⟨m, v, t, heq, rfl | ⟨elapsed, rfl, hx⟩⟩ := h n clock
      · rw [heq]; exact .endless hl
      · rw [heq]; exact .gaveUp hx hj (Or.inl hl)
    induction followed with
    | zero =>
      intro n clock
      rw [settleBy, verdict?_of_throttled ho hj]
      split
      · rename_i hx
        split at hx <;> cases hx
        exact ⟨n, _, _, rfl, Or.inr ⟨_, rfl, ‹_›⟩⟩
      · exact ⟨n, _, _, rfl, Or.inl rfl⟩
    | succ followed ih =>
      intro n clock
      rw [settleBy, verdict?_of_throttled ho hj]
      split
      · rename_i hx
        split at hx <;> cases hx
        exact ⟨n, _, _, rfl, Or.inr ⟨_, rfl, ‹_›⟩⟩
      · exact ih (n + 1) _

theorem settleFrom_course (last : Answer Float α) (as : List (Answer Float α)) (n : Nat)
    (clock : Float) : Course b ⟨as, last⟩ n (settleFrom b started last n clock as) := by
  induction as generalizing n clock with
  | nil => exact settleBy_course last _ n clock
  | cons a as ih =>
    rw [settleFrom]
    cases ha : a.isThrottled with
    | false =>
      rw [verdict?_of_not_throttled ha]
      have h := Course.settled (b := b) (n := n) (s := ⟨a :: as, last⟩)
        (t := Time.add clock a.takes) (by rw [Script.next_cons_of_not_throttled ha]; exact ha)
      rw [Script.next_cons_of_not_throttled ha, Script.rest_cons_of_not_throttled ha,
        Script.waits_cons_of_not_throttled ha] at h
      exact h
    | true =>
      obtain ⟨e, ho, hj⟩ := Answer.isThrottled_iff.1 ha
      rw [verdict?_of_throttled ho hj]
      split
      · rename_i hx
        split at hx <;> cases hx
        refine .gaveUp ‹_› hj (Or.inr ?_)
        rw [Script.waits_cons_of_throttled ha]
        omega
      · exact (ih (n + 1) _).cons ha

/-- **A call is settled by the first answer that is not throttling**, or
its budget is exhausted before, or there is no such answer. -/
theorem settle_course (b : RetryBudget Float) (started : Float) (s : Script α) :
    Course b s 0 (settle b started s.answers s.last) :=
  settleFrom_course s.last s.answers 0 started

/-- **A patient call is settled** by the first answer that is not
throttling. -/
theorem settle_of_isPatient (started : Float) {s : Script α} (h : b.IsPatient s) :
    ∃ t, settle b started s.answers s.last =
      ⟨s.waits + 1, s.next.verdict, s.rest.answers, t⟩ := by
  obtain ⟨hnext, hb⟩ := h
  have h := settle_course b started s
  revert h
  generalize settle b started s.answers s.last = r
  rintro (- | ⟨hx, -, h | hm⟩ | h)
  · exact ⟨_, by rw [Nat.zero_add]⟩
  · rw [hnext] at h; cases h
  · rw [hb _ (by omega) (by omega)] at hx; cases hx
  · rw [hnext] at h; cases h

/-- A call on a quiet script is settled by its first answer. -/
theorem settle_of_isQuiet (b : RetryBudget Float) (started : Float) {s : Script α}
    (h : s.IsQuiet) :
    ∃ t, settle b started s.answers s.last = ⟨1, s.next.verdict, s.rest.answers, t⟩ := by
  obtain ⟨t, ht⟩ := settle_of_isPatient started (h.isPatient b)
  exact ⟨t, by rw [ht, h.waits_eq_zero]⟩

end Settlement

end DeliveryAudit
