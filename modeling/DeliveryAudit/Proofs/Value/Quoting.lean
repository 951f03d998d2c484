import DeliveryAudit.Proofs.Except
import DeliveryAudit.Proofs.Roster.Counters
import DeliveryAudit.Value
/-!
# Which values cannot be written on one line

A value is written on one line unless an integer in it has more digits
than can be written, or its parts are nested deeper than they may be
(`Value.causes_of_quotedIn`). The induction is over the parts of a value,
together with those of its lists and entries.
-/

namespace DeliveryAudit

namespace Value

/-! ## The integers and the parts of a value -/

mutual

/-- The integers in a value. -/
def integers : Value → List Int
  | int n => [n]
  | list items => integersAll items
  | pair a b => a.integers ++ b.integers
  | mapping entries => integersEntries entries
  | set members => integersAll members
  | knot _ v => v.integers
  | _ => []

/-- The integers in some values. -/
def integersAll : List Value → List Int
  | [] => []
  | v :: vs => v.integers ++ integersAll vs

/-- The integers in some entries. -/
def integersEntries : List (Value × Value) → List Int
  | [] => []
  | (k, v) :: es => k.integers ++ v.integers ++ integersEntries es

end

mutual

/-- How deep the parts of a value are nested. The members of a set lie in
a list that is a part of it. -/
def height : Value → Nat
  | list items => heightAll items
  | pair a b => max a.height b.height + 1
  | mapping entries => heightEntries entries
  | set [] => 0
  | set members => heightAll members + 1
  | knot _ v => v.height
  | _ => 0

/-- How deep some values are nested that are parts of another. -/
def heightAll : List Value → Nat
  | [] => 0
  | v :: vs => max (v.height + 1) (heightAll vs)

/-- How deep some entries are nested that are parts of another value. -/
def heightEntries : List (Value × Value) → Nat
  | [] => 0
  | (k, v) :: es => max (max k.height v.height + 1) (heightEntries es)

end

/-! ## Causes -/

/-- What explains that something is not written: a long integer, or more
depth than there may be. -/
def QuotingFault.Causes (depth height : Nat) (integers : List Int) : QuotingFault → Prop
  | tooLong => ∃ n ∈ integers, 10 ^ Number.digitLimit ≤ n.natAbs
  | tooDeep => depth < height

variable {f : QuotingFault} {depth below h h' : Nat} {is is' : List Int} {around : List Nat}

theorem QuotingFault.Causes.mono (hf : f.Causes depth h is) (hh : h ≤ h') (his : is ⊆ is') :
    f.Causes depth h' is' := by
  cases f with
  | tooLong =>
    obtain ⟨n, hn, hlong⟩ := hf
    exact ⟨n, his hn, hlong⟩
  | tooDeep => exact Nat.lt_of_lt_of_le hf hh

/-- What explains a fault in a part explains it in the whole. -/
theorem QuotingFault.Causes.outside (hinside : inside depth = .ok below)
    (hf : f.Causes below h is) : f.Causes depth (h + 1) is := by
  cases depth with
  | zero => cases hinside
  | succ depth =>
    cases hinside
    cases f with
    | tooLong => exact hf
    | tooDeep => exact Nat.succ_lt_succ hf

/-- There is no room for parts. -/
theorem causes_of_inside (hinside : inside depth = .error f) : f.Causes depth (h + 1) is := by
  cases depth with
  | zero =>
    cases hinside
    exact Nat.succ_pos h
  | succ depth => cases hinside

theorem causes_of_decimal? {n : Int}
    (hn : (Number.decimal? n).elim (.error .tooLong) .ok =
      (.error f : Except QuotingFault String)) :
    f.Causes depth h [n] := by
  unfold Number.decimal? at hn
  split at hn
  · cases hn
  · next hlong =>
    cases hn
    rw [Number.length_toString_le_iff (by decide), Nat.not_lt] at hlong
    exact ⟨n, List.mem_singleton_self n, hlong⟩

/-! ## Faults and their causes -/

mutual

/-- **A value that is not written** has a cause. -/
theorem causes_of_quotedIn {depth : Nat} {around : List Nat} {f : QuotingFault} (v : Value)
    (h : quotedIn depth around v = .error f) : f.Causes depth v.height v.integers := by
  cases v with
  | null => cases h
  | bool b => cases h
  | int n => exact causes_of_decimal? h
  | real x => cases h
  | text t => cases h
  | bytes bs => cases h
  | date d => cases h
  | moment m => cases h
  | list items =>
    -- A list takes no room for itself: each item asks for it.
    rcases Except.cases_of_bind_eq_error h with h | ⟨ss, -, h⟩
    · exact causes_of_quotedAll items h
    · cases h
  | pair a b =>
    rcases Except.cases_of_bind_eq_error h with h | ⟨below, hbelow, h⟩
    · exact causes_of_inside h
    · rcases Except.cases_of_bind_eq_error h with h | ⟨s, -, h⟩
      · exact ((causes_of_quotedIn a h).mono (le_max_left _ _)
          (List.subset_append_left _ _)).outside hbelow
      · rcases Except.cases_of_bind_eq_error h with h | ⟨s', -, h⟩
        · exact ((causes_of_quotedIn b h).mono (le_max_right _ _)
            (List.subset_append_right _ _)).outside hbelow
        · cases h
  | mapping entries =>
    rcases Except.cases_of_bind_eq_error h with h | ⟨ss, -, h⟩
    · exact causes_of_quotedEntries entries h
    · cases h
  | set members =>
    cases members with
    | nil => cases h
    | cons v vs =>
      rcases Except.cases_of_bind_eq_error h with h | ⟨below, hbelow, h⟩
      · exact causes_of_inside h
      · rcases Except.cases_of_bind_eq_error h with h | ⟨ss, -, h⟩
        · exact (causes_of_quotedAll (v :: vs) h).outside hbelow
        · cases h
  | knot label v =>
    rw [quotedIn] at h
    split at h
    · cases h
    · exact causes_of_quotedIn v h
  | again label isMapping => cases h

/-- Of values that are not all written, one has a cause. -/
theorem causes_of_quotedAll {depth : Nat} {around : List Nat} {f : QuotingFault}
    (vs : List Value) (h : quotedAll depth around vs = .error f) :
    f.Causes depth (heightAll vs) (integersAll vs) := by
  cases vs with
  | nil => cases h
  | cons v vs =>
    rcases Except.cases_of_bind_eq_error h with h | ⟨below, hbelow, h⟩
    · exact (causes_of_inside h).mono (le_max_left _ _) (List.Subset.refl _)
    · rcases Except.cases_of_bind_eq_error h with h | ⟨s, -, h⟩
      · exact ((causes_of_quotedIn v h).outside hbelow).mono (le_max_left _ _)
          (List.subset_append_left _ _)
      · rcases Except.cases_of_bind_eq_error h with h | ⟨ss, -, h⟩
        · exact (causes_of_quotedAll vs h).mono (le_max_right _ _) (List.subset_append_right _ _)
        · cases h

/-- Of entries that are not all written, one has a cause. -/
theorem causes_of_quotedEntries {depth : Nat} {around : List Nat} {f : QuotingFault}
    (es : List (Value × Value)) (h : quotedEntries depth around es = .error f) :
    f.Causes depth (heightEntries es) (integersEntries es) := by
  cases es with
  | nil => cases h
  | cons e es =>
    obtain ⟨k, v⟩ := e
    rcases Except.cases_of_bind_eq_error h with h | ⟨below, hbelow, h⟩
    · exact (causes_of_inside h).mono (le_max_left _ _) (List.Subset.refl _)
    · rcases Except.cases_of_bind_eq_error h with h | ⟨s, -, h⟩
      · exact ((causes_of_quotedIn k h).outside hbelow).mono
          (Nat.le_trans (Nat.succ_le_succ (le_max_left _ _)) (le_max_left _ _))
          (by simp [integersEntries])
      · rcases Except.cases_of_bind_eq_error h with h | ⟨s', -, h⟩
        · exact ((causes_of_quotedIn v h).outside hbelow).mono
            (Nat.le_trans (Nat.succ_le_succ (le_max_right _ _)) (le_max_left _ _))
            (by simp [integersEntries])
        · rcases Except.cases_of_bind_eq_error h with h | ⟨ss, -, h⟩
          · exact (causes_of_quotedEntries es h).mono (le_max_right _ _)
              (List.subset_append_right _ _)
          · cases h

end

end Value

end DeliveryAudit
