import DeliveryAudit.Proofs.Number.Range
import DeliveryAudit.Proofs.Roster.Counters
import DeliveryAudit.Proofs.Settings.Checks
/-!
# What the check of a tunable lets through

A time that is let through is finite and not negative
(`Tunable.time_spec`), and a count is not negative and within the range of
the real numbers (`Tunable.count_spec`). Any other value is complained of,
unless the check cannot handle it (`Settings.Escapes`): an integer beyond
the real numbers, an infinite number where an integer is asked for, or a
value with parts that cannot be written (`Settings.escapes_iff`).
-/

namespace DeliveryAudit

/-! ## Real numbers -/

namespace Number

variable {x y : Float}

theorem lt_iff_compare : x < y ↔ x.toModel.unpack.compare y.toModel.unpack = some .lt := by
  change decide (x.toModel < y.toModel) = true ↔ _
  rw [decide_eq_true_iff, ← beq_iff_eq]
  rfl

theorem le_iff_compare :
    x ≤ y ↔ (x.toModel.unpack.compare y.toModel.unpack).any Ordering.isLE = true := by
  change decide (x.toModel ≤ y.toModel) = true ↔ _
  rw [decide_eq_true_iff]
  rfl

/-- A real number is not a number, infinite, or finite. -/
theorem isFinite_of_not (hnan : x.isNaN = false) (hinf : x.isInf = false) :
    x.isFinite = true := by
  have hnan : x.toModel.unpack.isNaN = false := hnan
  have hinf : x.toModel.unpack.isInf = false := hinf
  change x.toModel.unpack.isFinite = true
  generalize x.toModel.unpack = u at *
  cases u with
  | infinity sign => cases hinf
  | notANumber => cases hnan
  | zero sign => rfl
  | finite sign mantissa exponent hpos => rfl

/-- A number that is not below zero is zero or above. -/
theorem zero_le_of_not_lt (hnan : x.isNaN = false) (hlt : ¬ x < 0.0) : 0.0 ≤ x := by
  have hzero : (0.0 : Float).toModel.unpack = .zero .positive := rfl
  have hnan : x.toModel.unpack.isNaN = false := hnan
  rw [lt_iff_compare, hzero] at hlt
  rw [le_iff_compare, hzero]
  -- Next to zero, only the sign is compared.
  generalize x.toModel.unpack = u at *
  cases u with
  | infinity sign =>
    cases sign with
    | positive => rfl
    | negative => exact absurd rfl hlt
  | notANumber => cases hnan
  | zero sign => rfl
  | finite sign mantissa exponent hpos =>
    cases sign with
    | positive => rfl
    | negative => exact absurd rfl hlt

theorem rangeLimit_le_pow : rangeLimit ≤ 10 ^ digitLimit := middle_le_pow (by decide)

/-- An integer in the range of the real numbers can be written. -/
theorem decimal?_of_lt_rangeLimit {n : Int} (h : n.natAbs < rangeLimit) :
    decimal? n = some (toString n) :=
  if_pos ((length_toString_le_iff (by decide)).2 (Nat.lt_of_lt_of_le h rangeLimit_le_pow))

end Number

/-! ## Checks -/

namespace Tunable

variable {t : Tunable} {v : Value} {x : Float} {n : Int} {r : Refusal}

/-- **Times** that are let through are finite and not negative. -/
theorem time_spec (h : time v = .ok x) : x.isFinite = true ∧ 0.0 ≤ x := by
  unfold time at h
  split at h
  · cases h
  · split at h
    · cases h
    · next hfinite =>
      split at h
      · cases h
      · next hlt =>
        cases h
        rw [Bool.not_eq_true, Bool.or_eq_false_iff] at hfinite
        exact ⟨Number.isFinite_of_not hfinite.1 hfinite.2, Number.zero_le_of_not_lt hfinite.1 hlt⟩

/-- **Counts** that are let through are not negative and within the range of
the real numbers. -/
theorem count_spec (h : count v = .ok n) : 0 ≤ n ∧ n.natAbs < Number.rangeLimit := by
  unfold count at h
  split at h
  · cases h
  · next m hm =>
    split at h
    · cases h
    · next x hx =>
      split at h
      · cases h
      · next hneg =>
        cases h
        refine ⟨Int.not_lt.1 hneg, Nat.not_le.1 fun hlarge => ?_⟩
        rw [(Number.ofInt?_eq_none_iff n).2 hlarge] at hx
        cases hx

/-! ## Refusals -/

/-- What becomes of a value where a real number is asked for. -/
theorem toReal_cases (v : Value) :
    (∃ x, toReal v = .ok x) ∨ toReal v = .error (.objection .noNumber) ∨
      ∃ n, v = .int n ∧ Number.ofInt? n = none ∧ toReal v = .error .tooLarge := by
  have htext : ∀ x : Option Float,
      (∃ y, x.elim (.error (.objection .noNumber)) .ok = (.ok y : Except Refusal Float)) ∨
        x.elim (.error (.objection .noNumber)) .ok =
          (.error (.objection .noNumber) : Except Refusal Float) := by
    intro x
    cases x with
    | none => exact .inr rfl
    | some x => exact .inl ⟨x, rfl⟩
  cases v with
  | real x => exact .inl ⟨x, rfl⟩
  | bool b => exact .inl ⟨_, rfl⟩
  | int n =>
    cases hn : Number.ofInt? n with
    | none => exact .inr (.inr ⟨n, rfl, hn, by rw [toReal, hn]; rfl⟩)
    | some x => exact .inl ⟨x, by rw [toReal, hn]; rfl⟩
  | text t => exact (htext (Number.real? t)).imp_right .inl
  | bytes bs => exact (htext (Number.real? (asciiText bs))).imp_right .inl
  | _ => exact .inr (.inl rfl)

theorem textToInteger_cases (t : Text) :
    (∃ n, textToInteger t = .ok n) ∨ textToInteger t = .error (.objection .noNumber) := by
  unfold textToInteger
  split
  · exact .inl ⟨_, rfl⟩
  · exact .inr rfl

/-- What becomes of a value where an integer is asked for. -/
theorem toInteger_cases (v : Value) :
    (∃ n, toInteger v = .ok n) ∨ toInteger v = .error (.objection .noNumber) ∨
      ∃ x negative, v = .real x ∧ Number.parts x = .infinite negative ∧
        toInteger v = .error .infinite := by
  cases v with
  | int n => exact .inl ⟨n, rfl⟩
  | bool b => exact .inl ⟨_, rfl⟩
  | real x =>
    cases hx : Number.parts x with
    | nan => exact .inr (.inl (by rw [toInteger, hx]))
    | infinite negative => exact .inr (.inr ⟨x, negative, rfl, hx, by rw [toInteger, hx]⟩)
    | finite negative mantissa exponent => exact .inl ⟨_, by rw [toInteger, hx]⟩
  | text t => exact (textToInteger_cases t).imp_right .inl
  | bytes bs => exact (textToInteger_cases (asciiText bs)).imp_right .inl
  | _ => exact .inr (.inl rfl)

/-- **A time is refused** by an objection, or for an integer that is too
large. -/
theorem time_error_cases (h : time v = .error r) :
    (∃ o, r = .objection o) ∨
      r = .tooLarge ∧ ∃ n, v = .int n ∧ Number.rangeLimit ≤ n.natAbs := by
  rcases toReal_cases v with ⟨x, hx⟩ | hx | ⟨n, hn, hlarge, hx⟩
  · simp only [time, hx] at h
    split at h
    · cases h
      exact .inl ⟨_, rfl⟩
    · split at h
      · cases h
        exact .inl ⟨_, rfl⟩
      · cases h
  · simp only [time, hx] at h
    cases h
    exact .inl ⟨_, rfl⟩
  · simp only [time, hx] at h
    cases h
    exact .inr ⟨rfl, n, hn, (Number.ofInt?_eq_none_iff n).1 hlarge⟩

/-- **A count is refused** by an objection, or for an integer that is too
large or a number that is infinite. -/
theorem count_error_cases (h : count v = .error r) :
    (∃ o, r = .objection o) ∨
      (r = .tooLarge ∧ ∃ n, toInteger v = .ok n ∧ Number.rangeLimit ≤ n.natAbs) ∨
      r = .infinite ∧ ∃ x negative, v = .real x ∧ Number.parts x = .infinite negative := by
  rcases toInteger_cases v with ⟨n, hn⟩ | hn | ⟨x, negative, hx, hparts, hn⟩
  · simp only [count, hn] at h
    split at h
    · next hlarge =>
      cases h
      exact .inr (.inl ⟨rfl, n, hn, (Number.ofInt?_eq_none_iff n).1 hlarge⟩)
    · split at h
      · cases h
        exact .inl ⟨_, rfl⟩
      · cases h
  · simp only [count, hn] at h
    cases h
    exact .inl ⟨_, rfl⟩
  · simp only [count, hn] at h
    cases h
    exact .inr (.inr ⟨rfl, x, negative, hx, hparts⟩)

theorem time_of_large (h : Number.rangeLimit ≤ n.natAbs) : time (.int n) = .error .tooLarge := by
  rw [time, toReal, (Number.ofInt?_eq_none_iff n).2 h]
  rfl

theorem count_of_large (hn : toInteger v = .ok n) (h : Number.rangeLimit ≤ n.natAbs) :
    count v = .error .tooLarge := by
  simp only [count, hn, (Number.ofInt?_eq_none_iff n).2 h]

theorem count_of_infinite {negative : Bool} (h : Number.parts x = .infinite negative) :
    count (.real x) = .error .infinite := by
  simp only [count, toInteger, h]

/-- Whether a value has parts. -/
def hasParts : Value → Bool
  | .list _ | .pair _ _ | .mapping _ | .set _ | .knot _ _ => true
  | _ => false

/-- A value with parts is no number. -/
theorem refused_of_hasParts (h : hasParts v = true) :
    time v = .error (.objection .noNumber) ∧ count v = .error (.objection .noNumber) := by
  cases v with
  | list items => exact ⟨rfl, rfl⟩
  | pair a b => exact ⟨rfl, rfl⟩
  | mapping entries => exact ⟨rfl, rfl⟩
  | set members => exact ⟨rfl, rfl⟩
  | knot label v => exact ⟨rfl, rfl⟩
  | _ => cases h

variable [Bounds]

/-- A value without parts is written, if it is no integer that is too
large. -/
theorem quoted?_of_not_hasParts (h : hasParts v = false)
    (hint : ∀ n, v = .int n → n.natAbs < Number.rangeLimit) : ∃ s, v.quoted? = .ok s := by
  cases v with
  | int n =>
    refine ⟨toString n, ?_⟩
    rw [Value.quoted?, Value.quotedIn, Number.decimal?_of_lt_rangeLimit (hint n rfl)]
    rfl
  | list items => cases h
  | pair a b => cases h
  | mapping entries => cases h
  | set members => cases h
  | knot label v => cases h
  | _ => exact ⟨_, rfl⟩

end Tunable

namespace Settings

variable {t : Tunable} {v : Value} {f : Fault}

/-- Whether a tunable is a count. -/
def isCount : Tunable → Bool
  | .delay | .maxDuration => false
  | .maxAttempts | .recordBase => true

/-- Whether the check of a tunable converts a value as this integer. -/
def Converts (t : Tunable) (v : Value) (n : Int) : Prop :=
  if isCount t then Tunable.toInteger v = .ok n else v = .int n

variable [Bounds]

/-- **What the check of a tunable cannot handle.** -/
inductive Escapes (t : Tunable) (v : Value) : Fault → Prop where
  /-- An integer beyond the real numbers. -/
  | tooLarge (n : Int) (hn : Converts t v n) (hlarge : Number.rangeLimit ≤ n.natAbs) :
      Escapes t v .tooLarge
  /-- An infinite number where an integer is asked for. -/
  | infinite (x : Float) (negative : Bool) (ht : isCount t = true) (hv : v = .real x)
      (hx : Number.parts x = .infinite negative) : Escapes t v .infinite
  /-- A value with parts that cannot be written in the complaint. -/
  | unwritable (f : Value.QuotingFault) (hv : Tunable.hasParts v = true)
      (hf : v.quoted? = .error f) : Escapes t v (.unwritable f)

theorem tunableFault?_eq (t : Tunable) (v : Value) :
    tunableFault? t v =
      if isCount t then faultOf? (tune Tunable.count t v)
      else faultOf? (tune Tunable.time t v) := by
  cases t with
  | delay => rfl
  | maxAttempts => rfl
  | maxDuration => rfl
  | recordBase => rfl

theorem faultOf?_tune_eq_some_iff {α : Type} {check : Value → Except Tunable.Refusal α} :
    faultOf? (tune check t v) = some f ↔ ∃ r, check v = .error r ∧ refused t v r = f := by
  unfold tune
  cases check v with
  | ok a => exact iff_of_false nofun nofun
  | error r =>
    constructor
    · intro h
      exact ⟨r, rfl, Option.some.inj h⟩
    · rintro ⟨r', hr, rfl⟩
      cases hr
      rfl

/-- A value that there is an objection to is complained of or escapes. -/
theorem escapes_of_objection {o : Tunable.Objection} (h : refused t v (.objection o) = f)
    (hf : ∀ d, f ≠ .defect d) (hint : ∀ n, v = .int n → n.natAbs < Number.rangeLimit) :
    Escapes t v f := by
  cases hquoted : v.quoted? with
  | ok s =>
    rw [refused, hquoted] at h
    exact absurd h.symm (hf _)
  | error e =>
    rw [refused, hquoted] at h
    cases h
    refine .unwritable e ?_ hquoted
    by_contra hparts
    obtain ⟨s, hs⟩ := Tunable.quoted?_of_not_hasParts (Bool.eq_false_iff.2 hparts) hint
    rw [hs] at hquoted
    cases hquoted

/-- A value that escapes is not complained of. -/
theorem Escapes.ne_defect (h : Escapes t v f) (d : Defect) : f ≠ .defect d := by
  cases h <;> nofun

/-- A value that escapes is refused by the check. -/
theorem Escapes.tunableFault? (h : Escapes t v f) : tunableFault? t v = some f := by
  rw [tunableFault?_eq]
  cases h with
  | tooLarge n hn hlarge =>
    unfold Converts at hn
    split at hn
    · next ht =>
      rw [if_pos ht, faultOf?_tune_eq_some_iff]
      exact ⟨.tooLarge, Tunable.count_of_large hn hlarge, rfl⟩
    · next ht =>
      rw [if_neg ht, faultOf?_tune_eq_some_iff, hn]
      exact ⟨.tooLarge, Tunable.time_of_large hlarge, rfl⟩
  | infinite x negative ht hv hx =>
    subst hv
    rw [if_pos ht, faultOf?_tune_eq_some_iff]
    exact ⟨.infinite, Tunable.count_of_infinite hx, rfl⟩
  | unwritable e hparts he =>
    obtain ⟨htime, hcount⟩ := Tunable.refused_of_hasParts hparts
    have hrefused : refused t v (.objection .noNumber) = .unwritable e := by rw [refused, he]
    split
    · exact faultOf?_tune_eq_some_iff.2 ⟨_, hcount, hrefused⟩
    · exact faultOf?_tune_eq_some_iff.2 ⟨_, htime, hrefused⟩

/-- A value that is refused, but not complained of, escapes. -/
theorem escapes_of_tunableFault? (h : tunableFault? t v = some f) (hf : ∀ d, f ≠ .defect d) :
    Escapes t v f := by
  rw [tunableFault?_eq] at h
  split at h
  · next ht =>
    obtain ⟨r, hr, hrefused⟩ := faultOf?_tune_eq_some_iff.1 h
    rcases Tunable.count_error_cases hr with ⟨o, rfl⟩ | ⟨rfl, n, hn, hlarge⟩ |
      ⟨rfl, x, negative, hv, hx⟩
    -- An integer that there is an objection to is in range: beyond it, it is
    -- refused before.
    · refine escapes_of_objection hrefused hf fun n hn => Nat.not_le.1 fun hlarge => ?_
      subst hn
      rw [Tunable.count_of_large rfl hlarge] at hr
      cases hr
    · cases hrefused
      exact .tooLarge n (by rwa [Converts, if_pos ht]) hlarge
    · cases hrefused
      exact .infinite x negative ht hv hx
  · next ht =>
    obtain ⟨r, hr, hrefused⟩ := faultOf?_tune_eq_some_iff.1 h
    rcases Tunable.time_error_cases hr with ⟨o, rfl⟩ | ⟨rfl, n, rfl, hlarge⟩
    · refine escapes_of_objection hrefused hf fun n hn => Nat.not_le.1 fun hlarge => ?_
      subst hn
      rw [Tunable.time_of_large hlarge] at hr
      cases hr
    · cases hrefused
      exact .tooLarge n (by rw [Converts, if_neg ht]) hlarge

/-- **The check of a tunable complains of a value**, unless the value is one
that it cannot handle. -/
theorem escapes_iff :
    Escapes t v f ↔ tunableFault? t v = some f ∧ ∀ d, f ≠ .defect d :=
  ⟨fun h => ⟨h.tunableFault?, h.ne_defect⟩, fun ⟨h, hf⟩ => escapes_of_tunableFault? h hf⟩

end Settings

end DeliveryAudit
