import DeliveryAudit.Proofs.Destination.History
import Mathlib.Algebra.GroupWithZero.Nat
/-!
# Histories with repeated calls

A throttled call shows in a history as its request, and for every
repetition a notice, a delay and the same request again
(`Stretch.attemptEvents`). `Repeats` relates a history without
repetitions to one with `n` of them: they differ in nothing else, so that
the lines, the pages and the objects are the same (`Repeats.lines_eq`),
the requests are those of the first, each a number of times in a row
(`Repeats.requests_eq`), and every repetition has its delay
(`Repeats.sleeps_eq`).
-/

namespace DeliveryAudit

/-- Requests, each of them made once and then repeated so many times. -/
def Request.repeated (rs : List Request) (times : List Nat) : List Request :=
  (List.zipWith (fun r k => List.replicate (k + 1) r) rs times).flatten

/-- Requests that are never repeated. -/
theorem Request.repeated_of_eq_zero {rs : List Request} {times : List Nat}
    (hlength : times.length = rs.length) (hzero : ∀ p ∈ rs.zip times, p.2 = 0) :
    Request.repeated rs times = rs ∧ times.sum = 0 := by
  induction rs generalizing times with
  | nil => rw [List.eq_nil_of_length_eq_zero hlength]; exact ⟨rfl, rfl⟩
  | cons r rs ih =>
    cases times with
    | nil => cases hlength
    | cons k times =>
      have hk : k = 0 := hzero (r, k) List.mem_cons_self
      obtain ⟨hrs, hsum⟩ := ih (Nat.succ.inj hlength) fun p hp =>
        hzero p (List.mem_cons_of_mem _ hp)
      subst hk
      rw [List.sum_cons, hsum]
      exact ⟨congrArg (r :: ·) hrs, rfl⟩

namespace Stretch

variable {b : RetryBudget Float} {description : String} {r : Request}

/-- What an event of one repetition after another looks like to a view
that sees one event of each repetition. -/
theorem filterMap_repetitions {β : Type} {view : Event → Option β} {k : Nat} (seen : List β)
    (h : ∀ i, ([.logged (Settlement.notice b description (i + 1)), .slept b.delay,
      .called r] : List Event).filterMap view = seen) :
    ((List.range k).flatMap fun i => [.logged (Settlement.notice b description (i + 1)),
      .slept b.delay, .called r]).filterMap view = (List.replicate k seen).flatten := by
  rw [List.filterMap_flatMap]
  simp only [h]
  rw [List.flatMap_def, List.map_const', List.length_range]

theorem requests_attemptEvents (k : Nat) :
    (attemptEvents b description r (k + 1)).filterMap Event.request? =
      List.replicate (k + 1) r := by
  rw [attemptEvents, List.filterMap_cons_some (rfl : Event.request? (.called r) = some r),
    filterMap_repetitions [r] fun i => rfl, List.replicate_succ]
  simp

theorem sleeps_attemptEvents (k : Nat) :
    (attemptEvents b description r (k + 1)).filterMap Event.sleep? =
      List.replicate k b.delay := by
  rw [attemptEvents, List.filterMap_cons_none rfl,
    filterMap_repetitions [b.delay] fun i => rfl]
  simp

theorem lines_attemptEvents (k : Nat) :
    (attemptEvents b description r (k + 1)).filterMap Event.line? = [] := by
  rw [attemptEvents, List.filterMap_cons_none rfl, filterMap_repetitions [] fun i => rfl]
  simp

theorem pages_attemptEvents (k : Nat) :
    (attemptEvents b description r (k + 1)).countP Event.isPage = 0 := by
  rw [List.countP_eq_zero]
  intro e he
  simp only [attemptEvents, List.mem_cons, List.mem_flatMap, List.not_mem_nil, or_false] at he
  rcases he with rfl | ⟨i, -, rfl | rfl | rfl⟩ <;> exact Bool.false_ne_true

theorem objects_attemptEvents (k : Nat) :
    (attemptEvents b description r (k + 1)).countP Event.isObject = 0 := by
  rw [List.countP_eq_zero]
  intro e he
  simp only [attemptEvents, List.mem_cons, List.mem_flatMap, List.not_mem_nil, or_false] at he
  rcases he with rfl | ⟨i, -, rfl | rfl | rfl⟩ <;> exact Bool.false_ne_true

end Stretch

/-- **A history with repetitions.** The second history is the first one
with `n` repetitions of calls that may be repeated, each after the delay
of the budget. -/
inductive Repeats (b : RetryBudget Float) (may : Request → Prop) :
    Nat → List Event → List Event → Prop
  | nil : Repeats b may 0 [] []
  /-- Anything but a call is the same in both. -/
  | other {n : Nat} {e : Event} {es fs : List Event} : e.request? = none → e.sleep? = none →
      Repeats b may n es fs → Repeats b may n (e :: es) (e :: fs)
  /-- A call of the first is repeated `k` times in the second. -/
  | call {n k : Nat} {r : Request} {es fs : List Event} (description : String) :
      (k ≠ 0 → may r) → Repeats b may n es fs →
      Repeats b may (k + n) (.called r :: es) (Stretch.attemptEvents b description r (k + 1) ++ fs)

namespace Repeats

variable {b : RetryBudget Float} {may : Request → Prop} {n m : Nat}
variable {es fs es' fs' : List Event}

theorem append (h : Repeats b may n es fs) (h' : Repeats b may m es' fs') :
    Repeats b may (n + m) (es ++ es') (fs ++ fs') := by
  induction h with
  | nil => simpa using h'
  | other hr hs _ ih => exact .other hr hs ih
  | @call n k r es fs description hmay _ ih =>
    rw [List.append_assoc, Nat.add_assoc]
    exact .call description hmay ih

/-- Events among which there is no call and no delay are the same. -/
theorem of_eventless (hr : es.filterMap Event.request? = [])
    (hs : es.filterMap Event.sleep? = []) : Repeats b may 0 es es := by
  induction es with
  | nil => exact .nil
  | cons e es ih =>
    have hr' := List.filterMap_eq_nil_iff.1 hr
    have hs' := List.filterMap_eq_nil_iff.1 hs
    refine .other (hr' e List.mem_cons_self) (hs' e List.mem_cons_self) (ih ?_ ?_)
    · exact List.filterMap_eq_nil_iff.2 fun f hf => hr' f (List.mem_cons_of_mem _ hf)
    · exact List.filterMap_eq_nil_iff.2 fun f hf => hs' f (List.mem_cons_of_mem _ hf)

theorem lines_eq (h : Repeats b may n es fs) :
    fs.filterMap Event.line? = es.filterMap Event.line? := by
  induction h with
  | nil => rfl
  | other _ _ _ ih => rw [List.filterMap_cons, List.filterMap_cons, ih]
  | call _ _ _ ih =>
    rw [List.filterMap_append, Stretch.lines_attemptEvents, ih, List.filterMap_cons_none rfl]
    rfl

theorem pages_eq (h : Repeats b may n es fs) : fs.countP Event.isPage = es.countP Event.isPage := by
  induction h with
  | nil => rfl
  | other _ _ _ ih => rw [List.countP_cons, List.countP_cons, ih]
  | call _ _ _ ih =>
    rw [List.countP_append, Stretch.pages_attemptEvents, ih,
      List.countP_cons_of_neg Bool.false_ne_true]
    omega

theorem objects_eq (h : Repeats b may n es fs) :
    fs.countP Event.isObject = es.countP Event.isObject := by
  induction h with
  | nil => rfl
  | other _ _ _ ih => rw [List.countP_cons, List.countP_cons, ih]
  | call _ _ _ ih =>
    rw [List.countP_append, Stretch.objects_attemptEvents, ih,
      List.countP_cons_of_neg Bool.false_ne_true]
    omega

/-- **The requests are the same, apart from repetitions** of those that may
be repeated, which carry what the call carried. -/
theorem requests_eq (h : Repeats b may n es fs) :
    ∃ times : List Nat, times.length = (es.filterMap Event.request?).length ∧ times.sum = n ∧
      (∀ p ∈ (es.filterMap Event.request?).zip times, p.2 ≠ 0 → may p.1) ∧
      fs.filterMap Event.request? = Request.repeated (es.filterMap Event.request?) times := by
  induction h with
  | nil => exact ⟨[], rfl, rfl, fun p hp => absurd hp List.not_mem_nil, rfl⟩
  | other hr _ _ ih =>
    rw [List.filterMap_cons_none hr, List.filterMap_cons_none hr]
    exact ih
  | @call n k r es fs description hk _ ih =>
    obtain ⟨times, hlen, hsum, hmay, heq⟩ := ih
    rw [List.filterMap_cons_some (rfl : Event.request? (.called r) = some r)]
    refine ⟨k :: times, ?_, ?_, ?_, ?_⟩
    · rw [List.length_cons, List.length_cons, hlen]
    · rw [List.sum_cons, hsum]
    · intro p hp
      rw [List.zip_cons_cons, List.mem_cons] at hp
      rcases hp with rfl | hp
      · exact hk
      · exact hmay p hp
    · rw [List.filterMap_append, Stretch.requests_attemptEvents, heq]
      rfl

/-- **Every repetition comes after one delay**, and there are no others. -/
theorem sleeps_eq (h : Repeats b may n es fs) :
    es.filterMap Event.sleep? = [] ∧ fs.filterMap Event.sleep? = List.replicate n b.delay := by
  induction h with
  | nil => exact ⟨rfl, rfl⟩
  | other _ hs _ ih =>
    rw [List.filterMap_cons_none hs, List.filterMap_cons_none hs]
    exact ih
  | call _ _ _ ih =>
    rw [List.filterMap_cons_none rfl, List.filterMap_append, Stretch.sleeps_attemptEvents, ih.2,
      List.replicate_append_replicate]
    exact ⟨ih.1, rfl⟩

end Repeats

end DeliveryAudit
