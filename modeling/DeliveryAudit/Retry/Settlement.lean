import DeliveryAudit.Notice
import DeliveryAudit.Retry.Budget
import DeliveryAudit.Service.Client
/-!
# Settling a call

A throttled call is repeated after a delay until an answer settles it:
any answer that is not throttling, or a throttled one when the budget is
exhausted. `settle` goes through the answers to come; the settlement says
how many attempts were made, what came of them, and when.
-/

namespace DeliveryAudit

/-- What comes of a call that may be repeated. -/
inductive Verdict (τ α : Type) where
  | value (a : α)
  /-- The service or the transport failed for good. -/
  | failed (e : CallError)
  /-- The last answer was throttling and the budget exhausted. -/
  | gaveUp (elapsed : τ) (e : CallError)
  /-- An error that is passed on as it is. -/
  | foreign (e : CallError)
  | unhashable (kind : String)
  /-- The answers go on being throttling, and no end was seen. -/
  | unsettled

/-- A call that has been settled: the attempts made, what came of them,
the answers that are left, and the time. -/
structure Settlement (τ α : Type) where
  attempts : Nat
  verdict : Verdict τ α
  left : List (Answer τ α)
  clock : τ

namespace Settlement

variable {τ α : Type} [Time τ] [Bounds]

/-- What an answer settles after so many attempts; none if the call is to
be repeated. -/
def verdict? (b : RetryBudget τ) (attempts : Nat) (elapsed : τ) (outcome : Except CallError α) :
    Option (Verdict τ α) :=
  match outcome with
  | .ok a => some (.value a)
  | .error e =>
    match e.judge with
    | .failed => some (.failed e)
    | .foreign => some (.foreign e)
    | .unhashable kind => some (.unhashable kind)
    | .throttled => if b.exhausted attempts elapsed then some (.gaveUp elapsed e) else none

/-- The settlement by one answer that comes again and again, after the
attempts made before. -/
def settleBy (b : RetryBudget τ) (started : τ) (last : Answer τ α) :
    Nat → Nat → τ → Settlement τ α
  | 0, attempts, clock => ⟨attempts, .unsettled, [], clock⟩
  | followed + 1, attempts, clock =>
    let clock := Time.add clock last.takes
    match verdict? b (attempts + 1) (Time.sub clock started) last.outcome with
    | some v => ⟨attempts + 1, v, [], clock⟩
    | none => settleBy b started last followed (attempts + 1) (Time.add clock b.delay)

/-- The settlement by the answers to come, and by one that follows again
and again when they are used up. -/
def settleFrom (b : RetryBudget τ) (started : τ) (last : Answer τ α) :
    Nat → τ → List (Answer τ α) → Settlement τ α
  | attempts, clock, [] => settleBy b started last (Bounds.repetitions + 1) attempts clock
  | attempts, clock, a :: left =>
    let clock := Time.add clock a.takes
    match verdict? b (attempts + 1) (Time.sub clock started) a.outcome with
    | some v => ⟨attempts + 1, v, left, clock⟩
    | none => settleFrom b started last (attempts + 1) (Time.add clock b.delay) left

/-- The settlement of a call that starts at a time. -/
def settle (b : RetryBudget τ) (started : τ) (answers : List (Answer τ α)) (last : Answer τ α) :
    Settlement τ α :=
  settleFrom b started last 0 started answers

/-- The notice before a repetition. -/
def notice (b : RetryBudget τ) (description : String) (attempt : Nat) : Notice :=
  ⟨.warning, .retry,
    "Throttled while trying to " ++ description ++ " (attempt " ++ toString attempt ++
      "), retrying in " ++ Time.tenths b.delay ++ "s"⟩

/-- The notices before all repetitions. -/
def notices (b : RetryBudget τ) (description : String) (s : Settlement τ α) : List Notice :=
  (List.range (s.attempts - 1)).map fun i => notice b description (i + 1)

end Settlement

/-- Why a call did not give a value, where the service is to blame. -/
inductive CallFault (τ : Type) where
  | failed (description : String) (e : CallError)
  | gaveUp (description : String) (attempts : Nat) (elapsed : τ) (e : CallError)

/-- The wording of such a fault. -/
def CallFault.message {τ : Type} [Time τ] [Bounds] : CallFault τ → String
  | failed description e => "Error occurred to " ++ description ++ ": " ++ e.text
  | gaveUp description attempts elapsed e =>
    "Gave up to " ++ description ++ " after " ++ toString attempts ++ " throttled attempts (" ++
      Time.tenths elapsed ++ "s): " ++ e.text

end DeliveryAudit
