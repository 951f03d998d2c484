import DeliveryAudit.Yaml.Fault
/-!
# Triples

What reads a text either ends well or with a fault. `Ends` says what holds in
either case of a result, and `Triple` of an action with a state, when something
holds before. Both go through a sequence of actions one by one, and the faults
stay the same on the way.
-/

namespace DeliveryAudit.Yaml

variable {σ α β : Type} {E F : Fault → Prop} {f : Fault}

/-! ## Results -/

/-- **What holds of a result**: `Q` of a value, `E` of a fault. -/
def Ends (E : Fault → Prop) (Q : α → Prop) : Except Fault α → Prop
  | .ok a => Q a
  | .error f => E f

namespace Ends

variable {Q Q' : α → Prop} {R : β → Prop} {x : Except Fault α}

theorem bind {next : α → Except Fault β} (hx : Ends E Q x) (h : ∀ a, Q a → Ends E R (next a)) :
    Ends E R (x >>= next) := by
  cases x with
  | ok a => exact h a hx
  | error f => exact hx

theorem mono (h : Ends E Q x) (hQ : ∀ a, Q a → Q' a) : Ends E Q' x := by
  cases x with
  | ok a => exact hQ a h
  | error f => exact h

theorem widen (h : Ends E Q x) (hE : ∀ f, E f → F f) : Ends F Q x := by
  cases x with
  | ok a => exact h
  | error f => exact hE f h

theorem of_error (h : Ends E Q x) (hx : x = .error f) : E f := by
  rw [hx] at h
  exact h

theorem of_ok {a : α} (h : Ends E Q x) (hx : x = .ok a) : Q a := by
  rw [hx] at h
  exact h

end Ends

/-! ## Actions -/

/-- **A triple**: from a state with `P` an action comes to a value and a state
with `Q`, or to a fault with `E`. -/
def Triple (E : Fault → Prop) (P : σ → Prop) (action : StateT σ (Except Fault) α)
    (Q : α → σ → Prop) : Prop :=
  ∀ s, P s → Ends E (fun p => Q p.1 p.2) (action s)

namespace Triple

variable {P P' : σ → Prop} {Q Q' : α → σ → Prop} {R : β → σ → Prop}
variable {x : StateT σ (Except Fault) α} {next : α → StateT σ (Except Fault) β}

theorem pure {a : α} (h : ∀ s, P s → Q a s) :
    Triple E P (Pure.pure a : StateT σ (Except Fault) α) Q := h

theorem bind (hx : Triple E P x Q) (h : ∀ a, Triple E (Q a) (next a) R) :
    Triple E P (x >>= next) R :=
  fun s hs => Ends.bind (hx s hs) fun p hp => h p.1 p.2 hp

theorem map {f : α → β} {S : σ → Prop} (hx : Triple E P x fun _ => S) :
    Triple E P (f <$> x) fun _ => S := by
  rw [map_eq_pure_bind]
  exact hx.bind fun _ => pure fun _ hs => hs

theorem throw (h : ∀ s, P s → E f) :
    Triple E P (throw f : StateT σ (Except Fault) α) Q := h

/-- Nothing follows a fault. -/
theorem never : Triple E (fun _ => False) x Q := fun _ h => h.elim

theorem get : Triple E P (get : StateT σ (Except Fault) σ) fun s t => s = t ∧ P t :=
  fun _ hs => ⟨rfl, hs⟩

/-- The state that is looked up has what holds before. -/
theorem state {next : σ → StateT σ (Except Fault) β} (h : ∀ s, P s → Triple E P (next s) R) :
    Triple E P (MonadState.get >>= next) R :=
  fun s hs => h s hs s hs

theorem modify {g : σ → σ} {S : Unit → σ → Prop} (h : ∀ s, P s → S () (g s)) :
    Triple E P (modify g : StateT σ (Except Fault) Unit) S := h

theorem mono (h : Triple E P x Q) (hQ : ∀ a s, Q a s → Q' a s) : Triple E P x Q' :=
  fun s hs => (h s hs).mono fun p hp => hQ p.1 p.2 hp

theorem of_pre (h : Triple E P x Q) (hP : ∀ s, P' s → P s) : Triple E P' x Q :=
  fun s hs => h s (hP s hs)

/-- A result that does not depend on the state. -/
theorem lift {result : Except Fault α} {S : α → Prop} (h : Ends E S result) :
    Triple E P (liftM result : StateT σ (Except Fault) α) fun a s => S a ∧ P s := by
  intro s hs
  cases result with
  | ok a => exact ⟨h, hs⟩
  | error f => exact h

/-- What holds whatever the state is may be used at once. -/
theorem with_fact {p : Prop} (hp : ∀ s, P s → p) (h : p → Triple E P x Q) : Triple E P x Q :=
  fun s hs => h (hp s hs) s hs

theorem mapM {γ : Type} {step : γ → StateT σ (Except Fault) α} {items : List γ}
    {S : σ → Prop} (h : ∀ i ∈ items, Triple E S (step i) fun _ => S) :
    Triple E S (items.mapM step) fun _ => S := by
  induction items with
  | nil => exact pure fun _ hs => hs
  | cons i items ih =>
    rw [List.mapM_cons]
    refine (h i List.mem_cons_self).bind fun a => ?_
    exact (ih fun j hj => h j (List.mem_cons_of_mem i hj)).bind fun as => pure fun _ hs => hs

theorem forM {γ : Type} {step : γ → StateT σ (Except Fault) Unit} {items : List γ}
    {S : σ → Prop} (h : ∀ i ∈ items, Triple E S (step i) fun _ => S) :
    Triple E S (items.forM step) fun _ => S := by
  induction items with
  | nil => exact pure fun _ hs => hs
  | cons i items ih =>
    refine (h i List.mem_cons_self).bind fun _ => ?_
    exact ih fun j hj => h j (List.mem_cons_of_mem i hj)

end Triple

end DeliveryAudit.Yaml
