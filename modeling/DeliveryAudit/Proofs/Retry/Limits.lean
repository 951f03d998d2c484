import DeliveryAudit.Proofs.Retry.Attempts
import Mathlib.Algebra.Order.BigOperators.Group.Finset
import Mathlib.Algebra.Order.Floor.Semifield
import Mathlib.Data.Rat.Floor
/-!
# How long throttling is stood

Against throttling without an end, a call gives up at the first answer that
leaves its budget exhausted (`Settlement.givesUpAfter_of_isLeast`). A limit on
the attempts is reached at the last one that it permits. A limit on the time is
reached as well, because every repetition comes a delay after the answer before
it: by the answer `i`, at least `i` delays have passed
(`Settlement.nsmul_delay_le_elapsed`). As a budget looks ahead to the next
attempt, none starts after the limit (`Settlement.startOf_le`).
-/

namespace DeliveryAudit

namespace Settlement

variable [Bounds]

section Calls

variable {τ α : Type} [Time τ] {b : RetryBudget τ} {started : τ} {o : ℕ → Answer τ α}
variable {i j k m n : ℕ}

/-- **Throttling without an end.** -/
def IsEndless (o : ℕ → Answer τ α) : Prop := ∀ i, (o i).isThrottled = true

/-- **A call that gives up after `k` attempts**, however many answers are to
come after these: it reports the last answer, and every one before is followed
by a notice and a delay. -/
def GivesUpAfter (b : RetryBudget τ) (started : τ) (o : ℕ → Answer τ α) (k : ℕ) : Prop :=
  ∃ i e, k = i + 1 ∧ (o i).outcome = .error e ∧ ∀ last m,
    settle b started ((List.range (k + m)).map o) last =
      ⟨k, .gaveUp (elapsed b started o i) e, (List.range' k m).map o, answeredAt b started o i⟩ ∧
    ∀ description r, steps b description r started 0 started ((List.range (k + m)).map o) =
      (List.range i).flatMap (fun j =>
        [.asked r, .noted (notice b description (j + 1)), .slept b.delay]) ++ [.asked r]

/-! ## The first answer that settles -/

theorem exists_verdict?_eq_some (h : Settles b started o i) :
    ∃ v, verdict? b (i + 1) (elapsed b started o i) (o i).outcome = some v := by
  by_contra hnone
  rw [not_exists, ← Option.eq_none_iff_forall_ne_some] at hnone
  cases hthrottled : (o i).isThrottled with
  | false =>
    rw [verdict?_of_not_throttled hthrottled] at hnone
    cases hnone
  | true =>
    obtain ⟨e, ho, hj⟩ := Answer.isThrottled_iff.1 hthrottled
    rw [verdict?_of_throttled ho hj, if_pos (h.resolve_left (by rw [hthrottled]; decide))] at hnone
    cases hnone

/-- Where an answer settles a call, there is a first one that does. -/
theorem exists_isLeast_settles (h : Settles b started o i) :
    ∃ k ≤ i, IsLeast {i | Settles b started o i} k := by
  classical
  have hex : ∃ i, Settles b started o i := ⟨i, h⟩
  exact ⟨Nat.find hex, Nat.find_min' hex h, Nat.find_spec hex, fun _ hj => Nat.find_min' hex hj⟩

/-- **Against throttling without an end**, a call gives up at the first answer
that leaves its budget exhausted. -/
theorem givesUpAfter_of_isLeast (hendless : IsEndless o)
    (hk : IsLeast {i | Settles b started o i} k) : GivesUpAfter b started o (k + 1) := by
  obtain ⟨e, ho, hj⟩ := Answer.isThrottled_iff.1 (hendless k)
  have hexhausted := hk.1.resolve_left (by rw [hendless k]; decide)
  refine ⟨k, e, rfl, ho, fun last m => run_of_isLeast last m hk ?_⟩
  rw [verdict?_of_throttled ho hj, if_pos hexhausted]

theorem exists_givesUpAfter (hendless : IsEndless o) (h : Settles b started o i) :
    ∃ k ≤ i + 1, GivesUpAfter b started o k := by
  obtain ⟨k, hki, hk⟩ := exists_isLeast_settles h
  exact ⟨k + 1, Nat.succ_le_succ hki, givesUpAfter_of_isLeast hendless hk⟩

/-- **An attempt is made** only if no answer before settles the call. -/
theorem not_settles_of_lt_attempts {last : Answer τ α} (hin : i < n)
    (hi : i < (settle b started ((List.range n).map o) last).attempts) (hj : j < i) :
    ¬ Settles b started o j := by
  intro hsettles
  obtain ⟨k, hkj, hk⟩ := exists_isLeast_settles hsettles
  obtain ⟨v, hv⟩ := exists_verdict?_eq_some hk.1
  obtain ⟨m, rfl⟩ : ∃ m, n = k + 1 + m := Nat.exists_eq_add_of_le (by omega)
  rw [(run_of_isLeast last m hk hv).1] at hi
  exact absurd (Nat.le_of_lt_succ hi) (by omega)

/-! ## A limit on the attempts -/

/-- **The last attempt that is permitted** settles a call. -/
theorem settles_of_maxAttempts (hm : b.maxAttempts = (m + 1 : ℕ)) : Settles b started o m := by
  refine .inr ?_
  have hlimit : (b.maxAttempts != 0 && b.maxAttempts ≤ ((m + 1 : ℕ) : Int)) = true := by
    rw [hm, Bool.and_eq_true, bne_iff_ne, decide_eq_true_eq]
    omega
  rw [RetryBudget.exhausted, hlimit, Bool.true_or]

/-- Without a limit on the time, throttling settles no earlier one. -/
theorem isLeast_of_maxAttempts (hendless : IsEndless o) (hm : b.maxAttempts = (m + 1 : ℕ))
    (hunlimited : Time.isZero b.maxDuration = true) :
    IsLeast {i | Settles b started o i} m := by
  refine ⟨settles_of_maxAttempts hm, fun i hi => ?_⟩
  rcases hi with hi | hi
  · rw [hendless i] at hi
    cases hi
  · simp only [RetryBudget.exhausted, hm, hunlimited, Bool.not_true, Bool.false_and,
      Bool.or_false, Bool.and_eq_true, decide_eq_true_eq] at hi
    omega

end Calls

/-! ## A limit on the time -/

section Starts

variable {τ α : Type} [AddCommGroup τ] [LinearOrder τ] [IsOrderedAddMonoid τ] [Time τ] [ExactTime τ]
variable {b : RetryBudget τ} {started : τ} {o : ℕ → Answer τ α} {i : ℕ}

omit [Bounds] in
/-- By an answer, at least as many delays have passed as attempts were made
before. -/
theorem nsmul_delay_le_elapsed (htakes : ∀ i, 0 ≤ (o i).takes) (i : ℕ) :
    i • b.delay ≤ elapsed b started o i := by
  rw [elapsed_eq]
  exact le_add_of_nonneg_left (Finset.sum_nonneg fun j _ => htakes j)

omit [IsOrderedAddMonoid τ] in
theorem elapsed_add_delay_le (hlimit : 0 < b.maxDuration) (h : ¬ Settles b started o i) :
    elapsed b started o i + b.delay ≤ b.maxDuration := by
  by_contra hlate
  exact h (.inr ((RetryBudget.exhausted_iff _ _ _).2 (.inr ⟨hlimit.ne', not_le.1 hlate⟩)))

/-- **No attempt starts after the limit**, if no answer before settles the
call: the answer before it has left a delay. -/
theorem startOf_le (hlimit : 0 < b.maxDuration) (h : ∀ j < i, ¬ Settles b started o j) :
    startOf b started o i ≤ started + b.maxDuration := by
  cases i with
  | zero => exact le_add_of_nonneg_right hlimit.le
  | succ i =>
    have hin := elapsed_add_delay_le hlimit (h i (Nat.lt_succ_self i))
    have hstart : startOf b started o (i + 1) = started + (elapsed b started o i + b.delay) := by
      rw [elapsed, answeredAt, startOf, ExactTime.add_eq, ExactTime.sub_eq]
      abel
    rw [hstart]
    exact add_le_add_right hin started

end Starts

section Bound

variable {τ α : Type} [Field τ] [LinearOrder τ] [IsStrictOrderedRing τ] [FloorSemiring τ]
variable {b : RetryBudget τ} {started : τ} {o : ℕ → Answer τ α}

/-- How many delays there is time for. -/
def repetitions (b : RetryBudget τ) : ℕ := ⌊b.maxDuration / b.delay⌋₊

omit [Bounds] in
/-- **Beyond so many repetitions** the next delay would end after the limit. -/
theorem maxDuration_lt_iff (hdelay : 0 < b.delay) (i : ℕ) :
    b.maxDuration < i • b.delay + b.delay ↔ repetitions b ≤ i := by
  rw [← succ_nsmul, nsmul_eq_mul, ← div_lt_iff₀ hdelay, repetitions, ← Nat.lt_succ_iff]
  exact (Nat.floor_lt' (Nat.succ_ne_zero i)).symm

variable [Time τ] [ExactTime τ]

/-- **The limit is reached** by then. -/
theorem settles_repetitions (htakes : ∀ i, 0 ≤ (o i).takes) (hlimit : 0 < b.maxDuration)
    (hdelay : 0 < b.delay) : Settles b started o (repetitions b) := by
  refine .inr ((RetryBudget.exhausted_iff _ _ _).2 (.inr ⟨hlimit.ne', ?_⟩))
  calc b.maxDuration < repetitions b • b.delay + b.delay :=
        (maxDuration_lt_iff hdelay _).2 le_rfl
    _ ≤ elapsed b started o (repetitions b) + b.delay :=
        add_le_add_left (nsmul_delay_le_elapsed htakes _) _

/-- **Calls that take no time** reach it no earlier. -/
theorem isLeast_repetitions (hendless : IsEndless o) (htakes : ∀ i, (o i).takes = 0)
    (hlimit : 0 < b.maxDuration) (hdelay : 0 < b.delay) (hattempts : b.maxAttempts = 0) :
    IsLeast {i | Settles b started o i} (repetitions b) := by
  refine ⟨settles_repetitions (fun i => (htakes i).ge) hlimit hdelay, fun i hi => ?_⟩
  have helapsed : elapsed b started o i = i • b.delay := by
    rw [elapsed_eq, Finset.sum_eq_zero fun j _ => htakes j, zero_add]
  rcases hi with hi | hi
  · rw [hendless i] at hi
    cases hi
  · rw [RetryBudget.exhausted_iff, helapsed] at hi
    rcases hi with ⟨hne, -⟩ | ⟨-, hlate⟩
    · exact absurd hattempts hne
    · exact (maxDuration_lt_iff hdelay i).1 hlate

end Bound

/-- **Budgets hold against throttling without an end.** With a limit of `m`
attempts, a call gives up after `m` of them at the latest, and after just `m` of
them if there is no limit on the time; so do the calls of a traversal. In exact
arithmetic, with a limit `D` on the time and a delay `d`, it gives up after
`⌊D / d⌋ + 1` attempts at the latest, however long they take, and after just so
many if they take no time and their number is not limited; with both limits, the
smaller number counts. Whatever the answers are, with a limit on the time no
attempt starts after it. -/
theorem limits_hold :
    (∀ {τ α : Type} [Time τ] (b : RetryBudget τ) (started : τ) (o : ℕ → Answer τ α) (m : ℕ),
      IsEndless o → 0 < m → b.maxAttempts = m →
      (∃ k ≤ m, GivesUpAfter b started o k) ∧
      (Time.isZero b.maxDuration = true → GivesUpAfter b started o m)) ∧
    (∀ {α : Type} (b : RetryBudget Float) (w : World) (o : ℕ → Answer Float α) (m n : ℕ)
      (last : Answer Float α) (description : String) (r : Request)
      (leave : List (Answer Float α) → Client) (next : α → World → Stretch),
      IsEndless o → 0 < m → b.maxAttempts = m → m ≤ n →
      ∃ k ≤ m, ∃ elapsed e w',
        Stretch.call b description r w ⟨(List.range n).map o, last⟩ leave next =
          Stretch.after (Stretch.attemptEvents b description r k)
            (Stretch.stop (.destination (.call (.gaveUp description k elapsed e))) w')) ∧
    (∀ {τ α : Type} [Field τ] [LinearOrder τ] [IsStrictOrderedRing τ] [FloorSemiring τ] [Time τ]
      [ExactTime τ] (b : RetryBudget τ) (started : τ) (o : ℕ → Answer τ α),
      IsEndless o → (∀ i, 0 ≤ (o i).takes) → 0 < b.maxDuration → 0 < b.delay →
      (∃ k ≤ ⌊b.maxDuration / b.delay⌋₊ + 1, GivesUpAfter b started o k) ∧
      ((∀ i, (o i).takes = 0) → b.maxAttempts = 0 →
        GivesUpAfter b started o (⌊b.maxDuration / b.delay⌋₊ + 1)) ∧
      ∀ m : ℕ, 0 < m → b.maxAttempts = m →
        ∃ k ≤ min m (⌊b.maxDuration / b.delay⌋₊ + 1), GivesUpAfter b started o k) ∧
    (∀ {τ α : Type} [AddCommGroup τ] [LinearOrder τ] [IsOrderedAddMonoid τ] [Time τ] [ExactTime τ]
      (b : RetryBudget τ) (started : τ) (o : ℕ → Answer τ α) (n : ℕ) (last : Answer τ α) (i : ℕ),
      0 < b.maxDuration → i < n →
      i < (settle b started ((List.range n).map o) last).attempts →
      startOf b started o i ≤ started + b.maxDuration) := by
  refine ⟨?_, ?_, ?_, ?_⟩
  · intro τ α _ b started o m hendless hpos hm
    obtain ⟨m, rfl⟩ := Nat.exists_eq_succ_of_ne_zero hpos.ne'
    exact ⟨exists_givesUpAfter hendless (settles_of_maxAttempts hm),
      fun hunlimited =>
        givesUpAfter_of_isLeast hendless (isLeast_of_maxAttempts hendless hm hunlimited)⟩
  · intro α b w o m n last description r leave next hendless hpos hm hmn
    obtain ⟨m, rfl⟩ := Nat.exists_eq_succ_of_ne_zero hpos.ne'
    have hsettles : Settles b w.clock o m := settles_of_maxAttempts hm
    obtain ⟨k, hkm, i, e, -, -, hgives⟩ := exists_givesUpAfter hendless hsettles
    obtain ⟨l, rfl⟩ : ∃ l, n = k + l := Nat.exists_eq_add_of_le (hkm.trans hmn)
    rw [call_of_settle_eq (hgives last l).1]
    exact ⟨k, hkm, _, _, _, rfl⟩
  · intro τ α _ _ _ _ _ _ b started o hendless htakes hlimit hdelay
    have hsettles : Settles b started o (repetitions b) :=
      settles_repetitions htakes hlimit hdelay
    refine ⟨exists_givesUpAfter hendless hsettles,
      fun hinstant hattempts => ?_, fun m hpos hm => ?_⟩
    · exact givesUpAfter_of_isLeast hendless
        (isLeast_repetitions hendless hinstant hlimit hdelay hattempts)
    · -- The first answer that settles comes before both limits.
      obtain ⟨m, rfl⟩ := Nat.exists_eq_succ_of_ne_zero hpos.ne'
      obtain ⟨k, hk, hleast⟩ := exists_isLeast_settles hsettles
      exact ⟨k + 1, le_min (Nat.succ_le_succ (hleast.2 (settles_of_maxAttempts hm)))
        (Nat.succ_le_succ hk), givesUpAfter_of_isLeast hendless hleast⟩
  · intro τ α _ _ _ _ _ b started o n last i hlimit hin hi
    exact startOf_le hlimit fun j hj => not_settles_of_lt_attempts hin hi hj

end Settlement

/-! ## Two and a half seconds of throttling

A call is repeated after a second each, and takes no time. -/

namespace Settlement.ThreeAttempts

local instance : Bounds := .usual

/-- The answers, all throttling. -/
def answers {τ : Type} [Time τ] (_ : ℕ) : Answer τ String :=
  ⟨Time.zero, .error ThirdAttempt.throttled⟩

theorem isEndless_answers {τ : Type} [Time τ] : IsEndless (answers (τ := τ)) := fun i => by
  have hjudge : ThirdAttempt.throttled.judge = .throttled := by decide +kernel
  simp [Answer.isThrottled, answers, hjudge]

/-- A budget of two and a half seconds, without a limit on the attempts. -/
def timed : RetryBudget ℚ := ⟨1, 0, 5 / 2⟩

/-- A budget of three attempts, without a limit on the time. -/
def counted : RetryBudget Float := ⟨1.0, 3, 0.0⟩

/-- **Both budgets end after three attempts**, and the last of them starts in
time. -/
theorem limits_three :
    GivesUpAfter timed 0 answers 3 ∧ GivesUpAfter counted 0.0 answers 3 ∧
    startOf timed 0 answers 2 ≤ 5 / 2 := by
  obtain ⟨hattempts, -, htime, hstarts⟩ := limits_hold
  have hbound : ⌊timed.maxDuration / timed.delay⌋₊ + 1 = 3 := by
    simp only [timed]
    norm_num
  have htimed : GivesUpAfter timed 0 answers 3 := by
    have h := (htime timed 0 answers isEndless_answers (fun _ => le_rfl) (by decide +kernel)
      (by decide +kernel)).2.1 (fun _ => rfl) rfl
    rwa [hbound] at h
  have hcounted : GivesUpAfter counted 0.0 answers 3 :=
    (hattempts counted 0.0 answers 3 isEndless_answers (by decide) rfl).2 (by decide +kernel)
  refine ⟨htimed, hcounted, ?_⟩
  obtain ⟨i, e, -, -, hgives⟩ := htimed
  have hmade : 2 < (settle timed 0 ((List.range 3).map answers) (answers 3)).attempts := by
    rw [(hgives (answers 3) 0).1]
    exact Nat.lt_succ_self 2
  have hstart := hstarts timed 0 answers 3 (answers 3) 2 (by decide +kernel) (by decide) hmade
  rwa [zero_add] at hstart

end Settlement.ThreeAttempts

end DeliveryAudit
