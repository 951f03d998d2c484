import DeliveryAudit.Proofs.Destination.Converses
import DeliveryAudit.Proofs.Retry.Settling
import Mathlib.Algebra.BigOperators.Group.Finset.Basic
import Mathlib.Algebra.Order.Ring.Rat
import Mathlib.Order.Bounds.Basic
import Mathlib.Tactic.Abel
/-!
# What a call comes to, attempt by attempt

The answers to a call are numbered from 0. The first that is not throttling,
or that leaves the budget exhausted, settles it (`Settlement.Settles`); every
one before is followed by a notice, a delay and the same request again. So
the first settling answer says how many attempts are made, how long they
take, and what comes of the call (`Settlement.call_outcome`).
-/

namespace DeliveryAudit

/-! ## Exact times -/

/-- **Exact arithmetic**: the times are the numbers that they stand for. -/
class ExactTime (τ : Type) [AddCommGroup τ] [LinearOrder τ] [Time τ] : Prop where
  add_eq (s t : τ) : Time.add s t = s + t
  sub_eq (s t : τ) : Time.sub s t = s - t
  exceeds_iff (s t : τ) : Time.exceeds s t = true ↔ t < s
  isZero_iff (t : τ) : Time.isZero t = true ↔ t = 0

/-- Rational numbers of seconds. -/
instance : Time ℚ where
  zero := 0
  add := (· + ·)
  sub := (· - ·)
  exceeds s t := t < s
  isZero t := t = 0
  tenths t :=
    let n := Number.roundEven (10 * t.num.natAbs) t.den
    (if t < 0 then "-" else "") ++ toString (n / 10) ++ "." ++ toString (n % 10)

instance : ExactTime ℚ where
  add_eq _ _ := rfl
  sub_eq _ _ := rfl
  exceeds_iff _ _ := decide_eq_true_iff
  isZero_iff _ := decide_eq_true_iff

/-- **When a budget is exhausted**: the attempts are used up, or the next one
would start too late. A limit of zero is none. -/
theorem RetryBudget.exhausted_iff {τ : Type} [AddCommGroup τ] [LinearOrder τ] [Time τ]
    [ExactTime τ] (b : RetryBudget τ) (attempts : Int) (elapsed : τ) :
    b.exhausted attempts elapsed = true ↔
      (b.maxAttempts ≠ 0 ∧ b.maxAttempts ≤ attempts) ∨
      (b.maxDuration ≠ 0 ∧ b.maxDuration < elapsed + b.delay) := by
  have hzero : Time.isZero b.maxDuration = false ↔ b.maxDuration ≠ 0 := by
    rw [← Bool.not_eq_true, ExactTime.isZero_iff]
  simp only [exhausted, Bool.or_eq_true, Bool.and_eq_true, bne_iff_ne, decide_eq_true_eq,
    Bool.not_eq_true', hzero, ExactTime.exceeds_iff, ExactTime.add_eq]

/-! ## Classes of errors -/

namespace CallError

/-- Whether an error is the service's or the transport's. -/
def IsService : CallError → Prop
  | refused _ _ | transport _ => True
  | system _ _ | interrupted | other _ _ => False

/-- The code of a refusal is a text, or there is none. -/
def HasPlainCode : CallError → Prop
  | refused response _ =>
    Value.entry? "Code" (details response) = none ∨
      ∃ t, Value.entry? "Code" (details response) = some (.text t)
  | _ => True

variable [Bounds]

theorem isThrottling_of_hasPlainCode {e : CallError} (h : e.HasPlainCode) :
    ∃ throttling, e.isThrottling = .ok throttling := by
  cases e with
  | refused response operation =>
    have hhashable :
        ((Value.entry? "Code" (details response)).getD .null).isHashable = true := by
      rcases h with hcode | ⟨t, hcode⟩
      · rw [hcode]
        rfl
      · rw [hcode]
        rfl
    simp only [isThrottling, isThrottlingResponse, hhashable]
    exact ⟨_, rfl⟩
  | transport text => exact ⟨false, rfl⟩
  | system name text => exact ⟨false, rfl⟩
  | interrupted => exact ⟨false, rfl⟩
  | other name text => exact ⟨false, rfl⟩

/-- Only throttling is judged to be throttling. -/
theorem isThrottling_of_judge {e : CallError} (h : e.judge = .throttled) :
    e.isThrottling = .ok true := by
  cases e with
  | refused response operation =>
    cases hthrottling : (refused response operation).isThrottling with
    | ok throttling =>
      cases throttling with
      | true => rfl
      | false => simp [judge, hthrottling] at h
    | error c => simp [judge, hthrottling] at h
  | _ => cases h

end CallError

namespace Settlement

variable [Bounds]

/-- **What an answer settles**, by its class, when it comes so long after the
start. -/
inductive Concludes {τ α : Type} (elapsed : τ) : Except CallError α → Verdict τ α → Prop
  | value (v : α) : Concludes elapsed (.ok v) (.value v)
  | gaveUp {e : CallError} : e.isThrottling = .ok true →
      Concludes elapsed (.error e) (.gaveUp elapsed e)
  | failed {e : CallError} : e.IsService → e.isThrottling = .ok false →
      Concludes elapsed (.error e) (.failed e)
  | foreign {e : CallError} : ¬ e.IsService → Concludes elapsed (.error e) (.foreign e)

section Run

variable {τ α : Type} [Time τ] {b : RetryBudget τ} {started : τ} {o : ℕ → Answer τ α} {i k : ℕ}

/-! ## The clock -/

/-- When an attempt starts: after the answers before it, and a delay after
each. -/
def startOf (b : RetryBudget τ) (started : τ) (o : ℕ → Answer τ α) : ℕ → τ
  | 0 => started
  | i + 1 => Time.add (Time.add (startOf b started o i) (o i).takes) b.delay

/-- When an attempt is answered. -/
def answeredAt (b : RetryBudget τ) (started : τ) (o : ℕ → Answer τ α) (i : ℕ) : τ :=
  Time.add (startOf b started o i) (o i).takes

/-- How long after the start an attempt is answered. -/
def elapsed (b : RetryBudget τ) (started : τ) (o : ℕ → Answer τ α) (i : ℕ) : τ :=
  Time.sub (answeredAt b started o i) started

/-- **The answer settles the call**: it is not throttling, or it leaves the
budget exhausted. -/
def Settles (b : RetryBudget τ) (started : τ) (o : ℕ → Answer τ α) (i : ℕ) : Prop :=
  (o i).isThrottled = false ∨ b.exhausted (i + 1 : ℕ) (elapsed b started o i) = true

omit [Time τ] in
/-- What an answer settles that is not throttling. -/
theorem concludes_verdict {a : Answer τ α} {t : τ} (h : a.isThrottled = false)
    (hcode : ∀ e, a.outcome = .error e → e.HasPlainCode) : Concludes t a.outcome a.verdict := by
  unfold Answer.isThrottled at h
  unfold Answer.verdict
  cases ho : a.outcome with
  | ok v => exact .value v
  | error e =>
    rw [ho] at h
    obtain ⟨throttling, hthrottling⟩ := CallError.isThrottling_of_hasPlainCode (hcode e ho)
    cases e with
    | refused response operation =>
      cases throttling with
      | true => simp [CallError.judge, hthrottling] at h
      | false => simpa only [CallError.judge, hthrottling] using .failed trivial hthrottling
    | transport text => exact .failed trivial rfl
    | system name text => exact .foreign id
    | interrupted => exact .foreign id
    | other name text => exact .foreign id

/-- **An answer that settles** comes to what its class says. -/
theorem exists_verdict (h : Settles b started o i)
    (hcode : ∀ e, (o i).outcome = .error e → e.HasPlainCode) :
    ∃ v, verdict? b (i + 1) (elapsed b started o i) (o i).outcome = some v ∧
      Concludes (elapsed b started o i) (o i).outcome v := by
  cases hthrottled : (o i).isThrottled with
  | false =>
    exact ⟨_, verdict?_of_not_throttled hthrottled, concludes_verdict hthrottled hcode⟩
  | true =>
    obtain ⟨e, ho, hj⟩ := Answer.isThrottled_iff.1 hthrottled
    have hexhausted := h.resolve_left (by rw [hthrottled]; decide)
    refine ⟨.gaveUp (elapsed b started o i) e, ?_, ?_⟩
    · rw [verdict?_of_throttled ho hj, if_pos hexhausted]
    · rw [ho]
      exact .gaveUp (CallError.isThrottling_of_judge hj)

/-- An answer that does not settle is throttling, and the budget is not
exhausted. -/
theorem verdict?_of_not_settles (h : ¬ Settles b started o i) :
    verdict? b (i + 1) (elapsed b started o i) (o i).outcome = none := by
  simp only [Settles, not_or, Bool.not_eq_false] at h
  obtain ⟨e, ho, hj⟩ := Answer.isThrottled_iff.1 h.1
  rw [verdict?_of_throttled ho hj, if_neg h.2]

/-! ## The loop -/

/-- What a call does. -/
inductive Step (τ : Type) where
  | asked (r : Request)
  | noted (n : Notice)
  | slept (t : τ)

/-- **What a call does with the answers to come**: it asks, and after an
answer that does not settle it gives a notice, sleeps, and goes on. -/
def steps (b : RetryBudget τ) (description : String) (r : Request) (started : τ) :
    ℕ → τ → List (Answer τ α) → List (Step τ)
  | _, _, [] => []
  | attempts, clock, a :: left =>
    let clock := Time.add clock a.takes
    .asked r ::
      match verdict? b (attempts + 1) (Time.sub clock started) a.outcome with
      | some _ => []
      | none => .noted (notice b description (attempts + 1)) :: .slept b.delay ::
          steps b description r started (attempts + 1) (Time.add clock b.delay) left

/-- The steps of an attempt that does not settle. -/
def waitSteps (b : RetryBudget τ) (description : String) (r : Request) (i : ℕ) : List (Step τ) :=
  [.asked r, .noted (notice b description (i + 1)), .slept b.delay]

variable {last : Answer τ α} {left : List (Answer τ α)} {description : String} {r : Request}
variable {v : Verdict τ α}

/-- **An answer that settles** ends the call. -/
theorem settleFrom_of_verdict
    (h : verdict? b (i + 1) (elapsed b started o i) (o i).outcome = some v) :
    settleFrom b started last i (startOf b started o i) (o i :: left) =
      ⟨i + 1, v, left, answeredAt b started o i⟩ := by
  rw [elapsed, answeredAt] at h
  rw [settleFrom, h]
  rfl

theorem steps_of_verdict
    (h : verdict? b (i + 1) (elapsed b started o i) (o i).outcome = some v) :
    steps b description r started i (startOf b started o i) (o i :: left) = [.asked r] := by
  rw [elapsed, answeredAt] at h
  rw [steps, h]

/-- **An answer that does not settle** makes the next attempt start. -/
theorem settleFrom_of_not_settles (h : ¬ Settles b started o i) :
    settleFrom b started last i (startOf b started o i) (o i :: left) =
      settleFrom b started last (i + 1) (startOf b started o (i + 1)) left := by
  have hverdict := verdict?_of_not_settles h
  rw [elapsed, answeredAt] at hverdict
  rw [settleFrom, hverdict]
  rfl

theorem steps_of_not_settles (h : ¬ Settles b started o i) :
    steps b description r started i (startOf b started o i) (o i :: left) =
      waitSteps b description r i ++
        steps b description r started (i + 1) (startOf b started o (i + 1)) left := by
  have hverdict := verdict?_of_not_settles h
  rw [elapsed, answeredAt] at hverdict
  rw [steps, hverdict]
  rfl

/-- **The run of a call.** From the attempt `i` on, `d` answers do not settle
and the next one does. By induction on `d`, an attempt at a time. -/
theorem run_from (last : Answer τ α) (d m i : ℕ) (hbefore : ∀ j < d, ¬ Settles b started o (i + j))
    (h : verdict? b (i + d + 1) (elapsed b started o (i + d)) (o (i + d)).outcome = some v) :
    settleFrom b started last i (startOf b started o i) ((List.range' i (d + 1 + m)).map o) =
      ⟨i + d + 1, v, (List.range' (i + d + 1) m).map o, answeredAt b started o (i + d)⟩ ∧
    ∀ description r,
      steps b description r started i (startOf b started o i)
          ((List.range' i (d + 1 + m)).map o) =
        (List.range' i d).flatMap (waitSteps b description r) ++ [.asked r] := by
  induction d generalizing i with
  | zero =>
    rw [Nat.zero_add, Nat.add_comm, List.range'_succ, List.map_cons]
    exact ⟨settleFrom_of_verdict h, fun description r => steps_of_verdict h⟩
  | succ d ih =>
    -- The answer `i` does not settle; `d` answers fewer are left from `i + 1` on.
    have hnot : ¬ Settles b started o i := hbefore 0 (Nat.succ_pos d)
    have hshift : ∀ j, i + 1 + j = i + (j + 1) := fun j => by omega
    have hlength : d + 1 + 1 + m = (d + 1 + m) + 1 := by omega
    obtain ⟨hsettle, hsteps⟩ := ih (i + 1) (fun j hj => hshift j ▸ hbefore (j + 1) (by omega))
      (hshift d ▸ h)
    rw [hshift] at hsettle
    rw [hlength, List.range'_succ, List.map_cons]
    refine ⟨(settleFrom_of_not_settles hnot).trans hsettle, fun description r => ?_⟩
    rw [steps_of_not_settles hnot, hsteps, List.range'_succ, List.flatMap_cons, List.append_assoc]

/-- The steps of a call that the answer `k` settles. -/
def stepsTo (b : RetryBudget τ) (description : String) (r : Request) (k : ℕ) : List (Step τ) :=
  (List.range k).flatMap (waitSteps b description r) ++ [.asked r]

/-- **How a call is settled by the answer `k`** of the first `n`. -/
structure SettledAt (b : RetryBudget τ) (started : τ) (o : ℕ → Answer τ α) (k n : ℕ)
    (s : Settlement τ α) : Prop where
  attempts : s.attempts = k + 1
  verdict : Concludes (elapsed b started o k) (o k).outcome s.verdict
  left : s.left = ((List.range n).map o).drop (k + 1)
  clock : s.clock = answeredAt b started o k

/-- The run of a call from its start, up to the first answer that settles
it. -/
theorem run_of_isLeast (last : Answer τ α) (m : ℕ) (hk : IsLeast {i | Settles b started o i} k)
    (h : verdict? b (k + 1) (elapsed b started o k) (o k).outcome = some v) :
    settle b started ((List.range (k + 1 + m)).map o) last =
      ⟨k + 1, v, (List.range' (k + 1) m).map o, answeredAt b started o k⟩ ∧
    ∀ description r,
      steps b description r started 0 started ((List.range (k + 1 + m)).map o) =
        stepsTo b description r k := by
  have hbefore : ∀ j < k, ¬ Settles b started o (0 + j) := fun j hj hsettles => by
    rw [Nat.zero_add] at hsettles
    exact absurd (hk.2 hsettles) (by omega)
  have hrun := run_from last k m 0 hbefore (by rw [Nat.zero_add]; exact h)
  rw [← List.range_eq_range', ← List.range_eq_range', Nat.zero_add] at hrun
  exact hrun

/-- **The first answer that settles a call** decides. -/
theorem settledAt_of_isLeast {n : ℕ} (description : String) (r : Request) (last : Answer τ α)
    (hk : IsLeast {i | Settles b started o i} k)
    (hcode : ∀ e, (o k).outcome = .error e → e.HasPlainCode) (hn : k < n) :
    SettledAt b started o k n (settle b started ((List.range n).map o) last) ∧
    steps b description r started 0 started ((List.range n).map o) =
      stepsTo b description r k := by
  obtain ⟨m, rfl⟩ : ∃ m, n = k + 1 + m := Nat.exists_eq_add_of_le hn
  obtain ⟨v, hv, hconcludes⟩ := exists_verdict hk.1 hcode
  obtain ⟨hsettle, hsteps⟩ := run_of_isLeast last m hk hv
  have hleft : ((List.range (k + 1 + m)).map o).drop (k + 1) = (List.range' (k + 1) m).map o := by
    rw [← List.map_drop, List.range_eq_range', List.drop_range', Nat.zero_add, Nat.mul_one,
      Nat.add_sub_cancel_left]
  refine ⟨?_, hsteps description r⟩
  rw [hsettle]
  exact ⟨rfl, hconcludes, hleft.symm, rfl⟩

end Run

/-! ## Time in exact arithmetic -/

section Exact

variable {τ α : Type} [AddCommGroup τ] [LinearOrder τ] [Time τ] [ExactTime τ]

omit [Bounds] in
theorem startOf_eq (b : RetryBudget τ) (started : τ) (o : ℕ → Answer τ α) (i : ℕ) :
    startOf b started o i = started + (∑ j ∈ Finset.range i, (o j).takes + i • b.delay) := by
  induction i with
  | zero => simp [startOf]
  | succ i ih =>
    rw [startOf, ih, ExactTime.add_eq, ExactTime.add_eq, Finset.sum_range_succ, succ_nsmul]
    abel

omit [Bounds] in
/-- **An attempt is answered** after the time that all answers so far have
taken, and a delay for each attempt before. -/
theorem elapsed_eq (b : RetryBudget τ) (started : τ) (o : ℕ → Answer τ α) (i : ℕ) :
    elapsed b started o i = ∑ j ∈ Finset.range (i + 1), (o j).takes + i • b.delay := by
  rw [elapsed, answeredAt, startOf_eq, ExactTime.add_eq, ExactTime.sub_eq, Finset.sum_range_succ]
  abel

end Exact

/-! ## Calls of a traversal -/

/-- A step as an event of a traversal. -/
def Step.event : Step Float → Event
  | .asked r => .called r
  | .noted n => .logged n
  | .slept t => .slept t

/-- What follows a call that came to this after so many attempts. -/
def conclude {α : Type} (description : String) (attempts : ℕ) (next : α → World → Stretch)
    (w : World) : Verdict Float α → Stretch
  | .value a => next a w
  | .failed e => Stretch.stop (.destination (.call (.failed description e))) w
  | .gaveUp elapsed e =>
    Stretch.stop (.destination (.call (.gaveUp description attempts elapsed e))) w
  | .foreign e => Stretch.stop (.foreign e) w
  | .unhashable kind => Stretch.stop (.shape (.unhashable kind)) w
  | .unsettled => Stretch.stop .unsettled w

omit [Bounds] in
theorem map_event_stepsTo (b : RetryBudget Float) (description : String) (r : Request) (k : ℕ) :
    (stepsTo b description r k).map Step.event =
      Stretch.attemptEvents b description r (k + 1) := by
  rw [Stretch.attemptEvents_eq, Stretch.waitEvents, stepsTo, List.map_append, List.map_flatMap]
  rfl

theorem call_of_settle_eq {α : Type} {b : RetryBudget Float} {w : World} {script : Script α}
    {s : Settlement Float α} (hs : settle b w.clock script.answers script.last = s)
    (description : String) (r : Request) (leave : List (Answer Float α) → Client)
    (next : α → World → Stretch) :
    Stretch.call b description r w script leave next =
      Stretch.after (Stretch.attemptEvents b description r s.attempts)
        (conclude description s.attempts next
          { w with client := leave s.left, clock := s.clock } s.verdict) := by
  rw [Stretch.call, hs, Stretch.happen_andThen]
  obtain ⟨attempts, verdict, left, clock⟩ := s
  cases verdict with
  | value a => rfl
  | _ => rfl

/-- **What a call comes to.** Let `k` be the first answer, counted from 0,
that is not throttling or leaves the budget exhausted. Then `k + 1` attempts
are made, each with the same request, with a notice and one delay after every
attempt but the last. The call comes to the value of the answer `k`, also at
the last attempt that the budget permits; to the failure of a service error
that is not throttling; to any other error as it is; or, where it is
throttling, to giving up after `k + 1` attempts. In exact arithmetic, the time
of an answer since the start is what all answers so far have taken and a
delay for every attempt before, and a limit of zero is none. A traversal
makes its calls like this. -/
theorem call_outcome (description : String) (r : Request) :
    (∀ {τ α : Type} [Time τ] (b : RetryBudget τ) (started : τ) (o : ℕ → Answer τ α) (k n : ℕ)
      (last : Answer τ α), IsLeast {i | Settles b started o i} k →
      (∀ e, (o k).outcome = .error e → e.HasPlainCode) → k < n →
      SettledAt b started o k n (settle b started ((List.range n).map o) last) ∧
      steps b description r started 0 started ((List.range n).map o) =
        (List.range k).flatMap (fun i =>
          [.asked r, .noted (notice b description (i + 1)), .slept b.delay]) ++ [.asked r]) ∧
    (∀ {τ α : Type} [AddCommGroup τ] [LinearOrder τ] [Time τ] [ExactTime τ] (b : RetryBudget τ)
      (started : τ) (o : ℕ → Answer τ α) (i : ℕ),
      elapsed b started o i = ∑ j ∈ Finset.range (i + 1), (o j).takes + i • b.delay ∧
      (b.exhausted (i + 1 : ℕ) (elapsed b started o i) = true ↔
        (b.maxAttempts ≠ 0 ∧ b.maxAttempts ≤ (i + 1 : ℕ)) ∨
        (b.maxDuration ≠ 0 ∧ b.maxDuration < elapsed b started o i + b.delay))) ∧
    (∀ {α : Type} (b : RetryBudget Float) (w : World) (o : ℕ → Answer Float α) (k n : ℕ)
      (last : Answer Float α) (leave : List (Answer Float α) → Client)
      (next : α → World → Stretch), IsLeast {i | Settles b w.clock o i} k →
      (∀ e, (o k).outcome = .error e → e.HasPlainCode) → k < n →
      ∃ s, SettledAt b w.clock o k n s ∧
        Stretch.call b description r w ⟨(List.range n).map o, last⟩ leave next =
          Stretch.after
            ((steps b description r w.clock 0 w.clock ((List.range n).map o)).map Step.event)
            (conclude description (k + 1) next
              { w with client := leave s.left, clock := s.clock } s.verdict)) := by
  refine ⟨?_, ?_, ?_⟩
  · intro τ α _ b started o k n last hk hcode hn
    exact settledAt_of_isLeast description r last hk hcode hn
  · intro τ α _ _ _ _ b started o i
    exact ⟨elapsed_eq b started o i, RetryBudget.exhausted_iff b _ _⟩
  · intro α b w o k n last leave next hk hcode hn
    obtain ⟨hsettled, hsteps⟩ := settledAt_of_isLeast description r last hk hcode hn
    refine ⟨_, hsettled, ?_⟩
    rw [call_of_settle_eq rfl, hsettled.attempts, hsteps, map_event_stepsTo]

end Settlement

/-! ## The last attempt permitted

Two throttling answers and then a value, at the third attempt of three. -/

namespace Settlement.ThirdAttempt

local instance : Bounds := .usual

/-- The request for a page. -/
def request : Request := .getLogEvents "group" "stream" none

/-- The error of an answer that is throttling. -/
def throttled : CallError :=
  Client.refusal "ThrottlingException" "Rate exceeded" request.operation

/-- The answers, each of which takes this time. -/
def answers {τ : Type} (takes : τ) (i : ℕ) : Answer τ String :=
  ⟨takes, if i < 2 then .error throttled else .ok "page"⟩

/-- Three attempts in two seconds, half a second apart. -/
def exact : RetryBudget ℚ := ⟨1 / 2, 3, 2⟩

/-- The same budget in floating-point numbers. -/
def binary : RetryBudget Float := ⟨0.5, 3, 2.0⟩

theorem isLeast_settles {τ : Type} [Time τ] {b : RetryBudget τ} {started takes : τ}
    (hfirst : b.exhausted 1 (elapsed b started (answers takes) 0) = false)
    (hsecond : b.exhausted 2 (elapsed b started (answers takes) 1) = false) :
    IsLeast {i | Settles b started (answers takes) i} 2 := by
  have hjudge : throttled.judge = .throttled := by decide +kernel
  have hthrottled : ∀ i < 2, (answers takes i).isThrottled = true := fun i hi => by
    simp [Answer.isThrottled, answers, hi, hjudge]
  refine ⟨.inl rfl, fun i hi => ?_⟩
  by_contra hlt
  obtain rfl | rfl : i = 0 ∨ i = 1 := by omega
  · rcases hi with hnot | hexhausted
    · rw [hthrottled 0 (by omega)] at hnot
      cases hnot
    · exact absurd (hexhausted.symm.trans hfirst) (by decide)
  · rcases hi with hnot | hexhausted
    · rw [hthrottled 1 (by omega)] at hnot
      cases hnot
    · exact absurd (hexhausted.symm.trans hsecond) (by decide)

theorem hasPlainCode {τ : Type} {takes : τ} (e : CallError)
    (he : (answers takes 2).outcome = .error e) : e.HasPlainCode := by
  cases he

theorem isLeast_exact : IsLeast {i | Settles exact 0 (answers (1 / 4)) i} 2 :=
  isLeast_settles (by decide +kernel) (by decide +kernel)

theorem isLeast_binary : IsLeast {i | Settles binary 0.0 (answers 0.25) i} 2 :=
  isLeast_settles (by decide +kernel) (by decide +kernel)

/-- A call of this script, which hands its value out as a line. -/
def call : Stretch :=
  Stretch.call binary "read" request (World.start .withoutCredentials)
    ⟨(List.range 3).map (answers 0.25), answers 0.25 3⟩ (fun _ => .withoutCredentials)
    fun page w => Stretch.happen [.line (.ofString page)] w

/-- **The third answer is the value of the call**, after two delays, also as
the last one that the budget permits. -/
theorem outcome_third :
    (settle exact 0 ((List.range 3).map (answers (1 / 4))) (answers (1 / 4) 3)).verdict =
      .value "page" ∧
    elapsed exact 0 (answers (1 / 4)) 2 = 7 / 4 ∧
    call.requests = [request, request, request] ∧ call.sleeps = [0.5, 0.5] ∧
    call.lines = [.ofString "page"] := by
  obtain ⟨hsettle, helapsed, hcall⟩ := call_outcome "read" request
  have hexact : elapsed exact 0 (answers (1 / 4)) 2 = 7 / 4 := by
    rw [(helapsed exact 0 (answers (1 / 4)) 2).1]
    decide +kernel
  obtain ⟨hsettled, -⟩ := hsettle exact 0 (answers (1 / 4)) 2 3 (answers (1 / 4) 3) isLeast_exact
    hasPlainCode (by omega)
  have hvalue : ∀ {τ : Type} {t : τ} {v : Verdict τ String},
      Concludes t (.ok "page") v → v = .value "page" := fun hv => by
    cases hv
    rfl
  obtain ⟨s, hs, hstretch⟩ := hcall binary (World.start .withoutCredentials) (answers 0.25) 2 3
    (answers 0.25 3) (fun _ => .withoutCredentials)
    (fun page w => Stretch.happen [.line (.ofString page)] w) isLeast_binary hasPlainCode (by omega)
  obtain ⟨-, hsteps⟩ := hsettle binary (World.start .withoutCredentials).clock (answers 0.25) 2 3
    (answers 0.25 3) isLeast_binary hasPlainCode (by omega)
  rw [hsteps, hvalue hs.verdict] at hstretch
  refine ⟨hvalue hsettled.verdict, hexact, ?_⟩
  rw [call, hstretch]
  exact ⟨rfl, rfl, rfl⟩

end Settlement.ThirdAttempt

end DeliveryAudit
