import DeliveryAudit.Number.Fixed
/-!
# Retry budgets

A budget says how long a call that is throttled is tried again: after
which delay, how often, and for how long. A limit of zero is no limit.
Time is any type with a zero, sums, differences and an order.
-/

namespace DeliveryAudit

/-- What is needed of a type of times. -/
class Time (τ : Type) where
  zero : τ
  add : τ → τ → τ
  sub : τ → τ → τ
  /-- Whether the first time is later than the second. -/
  exceeds : τ → τ → Bool
  isZero : τ → Bool
  /-- A number of seconds with one decimal place. -/
  tenths : τ → String

instance : Time Float where
  zero := 0.0
  add := (· + ·)
  sub := (· - ·)
  exceeds s t := t < s
  isZero t := t == 0.0
  tenths := Number.tenths

/-- How long to keep repeating a throttled call. -/
structure RetryBudget (τ : Type) where
  delay : τ
  maxAttempts : Int
  maxDuration : τ

namespace RetryBudget

/-- The budget that is never exhausted, with a delay of a second. -/
def usual : RetryBudget Float := ⟨1.0, 0, 0.0⟩

/-- Whether no attempt is left after so many, made in so much time: the
number of attempts is used up, or the next attempt would start too
late. -/
def exhausted {τ : Type} [Time τ] (b : RetryBudget τ) (attempts : Int) (elapsed : τ) : Bool :=
  (b.maxAttempts != 0 && b.maxAttempts ≤ attempts) ||
    (!Time.isZero b.maxDuration && Time.exceeds (Time.add elapsed b.delay) b.maxDuration)

end RetryBudget

end DeliveryAudit
