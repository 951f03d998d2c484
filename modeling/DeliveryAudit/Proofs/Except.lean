/-!
# Steps that may fail

A computation in steps succeeds just when each step does, and fails where
the first of them fails.
-/

namespace DeliveryAudit

namespace Except

variable {ε α β : Type} {x : Except ε α} {next : α → Except ε β}

/-- Whether a step fails so can be told where faults can be told apart. -/
instance decidableEqError [DecidableEq ε] (x : Except ε α) (e : ε) : Decidable (x = .error e) :=
  match x with
  | .ok _ => isFalse fun h => by cases h
  | .error e' => decidable_of_iff (e' = e) ⟨congrArg _, fun h => by cases h; rfl⟩

/-- A bind that succeeds, step by step. -/
theorem exists_of_bind_eq_ok {b : β} (h : x >>= next = .ok b) :
    ∃ a, x = .ok a ∧ next a = .ok b := by
  cases x with
  | error e => cases h
  | ok a => exact ⟨a, rfl, h⟩

/-- A bind that fails, in the first step or later. -/
theorem cases_of_bind_eq_error {e : ε} (h : x >>= next = .error e) :
    x = .error e ∨ ∃ a, x = .ok a ∧ next a = .error e := by
  cases x with
  | error e' =>
    cases h
    exact .inl rfl
  | ok a => exact .inr ⟨a, rfl, h⟩

/-- A check that is passed. -/
theorem of_guard_eq_ok {c : Prop} [Decidable c] {e : ε} {x : Except ε β} {b : β}
    (h : (if c then throw e >>= next else x) = .ok b) : ¬ c ∧ x = .ok b := by
  split at h
  · cases h
  · next hc => exact ⟨hc, h⟩

end Except

end DeliveryAudit
