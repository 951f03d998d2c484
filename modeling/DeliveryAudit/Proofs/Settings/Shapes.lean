import DeliveryAudit.Proofs.Settings.Precedence
import DeliveryAudit.Settings.File
import Mathlib.Algebra.Group.Nat.Defs
import Mathlib.Logic.Basic
/-!
# Sections that are no mappings

A settings file holds a mapping, and so does its section on retries. A value
that is no mapping is refused in their place, unless it is empty or zero
(`Value.Void`): it then counts as if nothing were there
(`Settings.rejected_unless_void`).
-/

namespace DeliveryAudit

/-! ## Zeros -/

namespace Number

theorem toBits_injective : Function.Injective Float.toBits := by
  rintro ⟨⟨bits, hbits⟩⟩ ⟨⟨others, hothers⟩⟩ (rfl : bits = others)
  rfl

/-- The bits of a zero are none but its sign. -/
theorem toNat_of_unpack_eq_zero {b : BitVec 64} {sign : Float.Model.UnpackedFloat.Sign}
    (h : Float.Model.UnpackedFloat.unpack Float.Model.Format.binary64 b = .zero sign) :
    b.toNat = 0 ∨ b.toNat = 2 ^ 63 := by
  unfold Float.Model.UnpackedFloat.unpack at h
  dsimp only at h
  rcases ite_eq_iff.1 h with ⟨-, h⟩ | ⟨-, h⟩
  · rcases ite_eq_iff.1 h with ⟨-, h⟩ | ⟨-, h⟩
    · cases h
    · cases h
  rcases ite_eq_iff.1 h with ⟨hexponent, h⟩ | ⟨-, h⟩
  · rcases dite_eq_iff.1 h with ⟨hmantissa, -⟩ | ⟨_, h⟩
    · have hexponent := congrArg BitVec.toNat hexponent
      have hmantissa := congrArg BitVec.toNat hmantissa
      simp [Float.Model.UnpackedFloat.unpackExponent,
        Float.Model.UnpackedFloat.unpackMantissa] at hexponent hmantissa
      have := b.isLt
      omega
    · cases h
  · cases h

/-- **What equals zero** is one of the two zeros. -/
theorem eq_zero_of_beq {x : Float} (h : (x == 0) = true) : x = 0.0 ∨ x = -0.0 := by
  have hzero : (0 : Float).toModel.unpack = .zero .positive := rfl
  change (x.toModel.unpack.compare (0 : Float).toModel.unpack == some .eq) = true at h
  rw [hzero] at h
  cases hx : x.toModel.unpack with
  | infinity sign =>
    rw [hx] at h
    cases sign with
    | _ => cases h
  | notANumber =>
    rw [hx] at h
    cases h
  | zero sign =>
    rcases toNat_of_unpack_eq_zero hx with hbits | hbits
    · exact .inl (toBits_injective (UInt64.toNat_inj.1 hbits))
    · exact .inr (toBits_injective (UInt64.toNat_inj.1 hbits))
  | finite sign mantissa exponent hpos =>
    rw [hx] at h
    cases sign with
    | _ => cases h

end Number

/-! ## Void values -/

namespace Value

variable {v : Value}

/-- **The void values**: nothing, and what is empty or zero without being a
mapping. -/
inductive Void : Value → Prop
  | null : Void null
  | no : Void (bool false)
  | zero : Void (int 0)
  | realZero : Void (real 0.0)
  | negativeZero : Void (real (-0.0))
  | text : Void (text [])
  | bytes : Void (bytes [])
  | list : Void (list [])
  | set : Void (set [])
  | knot {label : Nat} {v : Value} : Void v → Void (knot label v)

theorem Void.isTruthy (h : Void v) : v.isTruthy = false := by
  induction h with
  | null => rfl
  | no => rfl
  | zero => rfl
  | realZero => rfl
  | negativeZero => rfl
  | text => rfl
  | bytes => rfl
  | list => rfl
  | set => rfl
  | knot _ ih => exact ih

/-- A value that counts as false is void unless it is a mapping. -/
theorem void_of_not_isTruthy : ∀ {v : Value}, v.isMapping = false → v.isTruthy = false → Void v
  | .null, _, _ => .null
  | .bool false, _, _ => .no
  | .int n, _, h => by
    have hn : n = 0 := by simpa [Value.isTruthy] using h
    exact hn ▸ .zero
  | .real x, _, h => by
    have hx : (x == 0) = true := by simpa [Value.isTruthy, bne] using h
    rcases Number.eq_zero_of_beq hx with rfl | rfl
    · exact .realZero
    · exact .negativeZero
  | .text [], _, _ => .text
  | .bytes [], _, _ => .bytes
  | .list [], _, _ => .list
  | .set [], _, _ => .set
  | .knot _ _, hmapping, h => .knot (void_of_not_isTruthy hmapping h)

/-- What equals a list is a list, and their items are equal. -/
theorem exists_of_same_list {items : List Value} (h : v.same (list items) = true) :
    ∃ vs, v = list vs ∧ sameAll vs items = true := by
  cases v with
  | list vs => exact ⟨vs, rfl, by rwa [same] at h⟩
  | _ => simp [same, sameLeaf, asInt?] at h

theorem eq_nil_of_sameAll {vs : List Value} (h : sameAll vs [] = true) : vs = [] := by
  cases vs with
  | nil => rfl
  | cons v vs => simp [sameAll] at h

/-- What is no mapping has no entries, also where it lies inside itself. -/
theorem entries?_of_not_isMapping (h : v.isMapping = false) : v.entries? = none := by
  cases v with
  | mapping entries => cases h
  | knot label w =>
    cases w with
    | mapping entries => cases h
    | again l isMapping =>
      rw [entries?, unroll, fill]
      by_cases hl : (l == label) = true
      · rw [if_pos hl]
      · rw [if_neg hl]
    | _ => rfl
  | _ => rfl

end Value

namespace Settings

variable {env : Environment} {entries others : List (Value × Value)} {v : Value}

/-! ## Sections -/

/-- **An environment that holds what it has to**: all that is required, and a
destination of a known kind. -/
structure Complete (env : Environment) : Prop where
  required : ∀ r, ∃ s, require env r = .ok s
  supported : kindFault? env = none

variable [Bounds]

/-- In a complete environment the section on retries is the first that can be
wrong. -/
theorem Complete.retryShape (h : Complete env)
    (hretries : retrySection entries = .error (.defect .retryShape)) :
    ofSources env (.mapping entries) = .error (.defect .retryShape) := by
  have hrequired : ∀ r, faultOf? (require env r) = none := by
    intro r
    obtain ⟨s, hs⟩ := h.required r
    rw [hs]
    rfl
  rw [ofSources_eq_error_iff rfl, checks]
  simp only [hrequired, h.supported, hretries]
  rfl

/-- A section on retries without entries does not show. -/
theorem ofSources_of_void (hentries : retrySection entries = .ok [])
    (hothers : retrySection others = .ok [])
    (hbase : Value.entry? "record_id_base" others = Value.entry? "record_id_base" entries) :
    ofSources env (.mapping entries) = ofSources env (.mapping others) := by
  have hsections : ∀ es, sections (.mapping es) = .ok es := fun _ => rfl
  have hsource : source env .recordBase others = source env .recordBase entries := by
    simp only [source, Tunable.entryName, hbase]
  have hbind : ∀ {α β : Type} (a : α) (next : α → Except Fault β), (.ok a >>= next) = next a :=
    fun _ _ => rfl
  simp only [ofSources, hsections, hentries, hothers, hbind, hsource]

/-- **What is no mapping is refused unless it is void.** In the place of a
whole settings file or of its section on retries, a value that is no mapping
is complained of if it is not void, and counts as if nothing were there if it
is. -/
theorem rejected_unless_void (hv : v.isMapping = false) :
    (¬ v.Void →
      (∀ opener path bytes, path.isEmpty = false → opener path = .ok bytes →
        Yaml.read bytes = .ok v →
        SettingsFile.read opener (some path) = .error (.noMapping path)) ∧
      ∀ env entries, Complete env → Value.entry? "retry" entries = some v →
        ofSources env (.mapping entries) = .error (.defect .retryShape)) ∧
    (v.Void →
      (∀ opener path bytes, path.isEmpty = false → opener path = .ok bytes →
        Yaml.read bytes = .ok v →
        SettingsFile.read opener (some path) = .ok ⟨[], [SettingsFile.notice path]⟩) ∧
      ∀ env entries others, Value.entry? "retry" entries = some v →
        Value.entry? "retry" others = none →
        Value.entry? "record_id_base" others = Value.entry? "record_id_base" entries →
        ofSources env (.mapping entries) = ofSources env (.mapping others)) := by
  have hentries? := Value.entries?_of_not_isMapping hv
  constructor
  · intro hvoid
    have htruthy : v.isTruthy = true := by
      rw [← Bool.not_eq_false]
      exact mt (Value.void_of_not_isTruthy hv) hvoid
    constructor
    · intro opener path bytes hpath hopen hread
      simp only [SettingsFile.read, hpath, hopen, SettingsFile.ofBytes, hread,
        SettingsFile.entriesOf, hentries?, htruthy, if_true, Bool.false_eq_true, if_false]
    · intro env entries henv hretry
      refine henv.retryShape ?_
      simp only [retrySection, hretry, Option.getD_some, hentries?, htruthy, if_true]
  · intro hvoid
    have htruthy := hvoid.isTruthy
    constructor
    · intro opener path bytes hpath hopen hread
      simp only [SettingsFile.read, hpath, hopen, SettingsFile.ofBytes, hread,
        SettingsFile.entriesOf, hentries?, htruthy, Bool.false_eq_true, if_false]
    · intro env entries others hretry hnone hbase
      refine ofSources_of_void ?_ ?_ hbase
      · simp only [retrySection, hretry, Option.getD_some, hentries?, htruthy,
          Bool.false_eq_true, if_false]
      · rw [retrySection, hnone]
        rfl

end Settings

/-! ## Lists

A settings file is a list, with an item or empty, or has a section on retries
that is one. -/

namespace Settings.Lists

local instance : Bounds := .usual

/-- What opens a file of these bytes. -/
def opener (bytes : List UInt8) : Opener := fun _ => .ok bytes

/-- The bytes of an empty list. -/
def emptyBytes : List UInt8 := [0x5B, 0x5D]

/-- The bytes of a list with an empty one as its item. -/
def nestedBytes : List UInt8 := [0x5B, 0x5B, 0x5D, 0x5D]

/-- The sections of a file whose section on retries is this list. -/
def sectionsOf (items : List Value) : List (Value × Value) := [(.ofString "retry", .list items)]

theorem entry?_sectionsOf (items : List Value) :
    Value.entry? "retry" (sectionsOf items) = some (.list items) := by
  rw [sectionsOf, Value.entry?_cons, if_pos rfl]

theorem entry?_recordBase : Value.entry? "record_id_base" (sectionsOf []) = none := by
  rw [sectionsOf, Value.entry?_cons, if_neg (by decide)]
  rfl

theorem eq_nested_of_sameAll {vs : List Value} (h : Value.sameAll vs [.list []] = true) :
    vs = [.list []] := by
  cases vs with
  | nil => simp [Value.sameAll] at h
  | cons v vs =>
    rw [Value.sameAll, Bool.and_eq_true] at h
    obtain ⟨us, rfl, hinner⟩ := Value.exists_of_same_list h.1
    rw [Value.eq_nil_of_sameAll hinner, Value.eq_nil_of_sameAll h.2]

/-- A file whose value equals a list is read as a list. Whether values are
equal can be evaluated, while whether they are the same cannot. -/
theorem exists_of_read (bytes : List UInt8) (items : List Value)
    (h : (Yaml.read bytes).toOption.any (·.same (.list items)) = true) :
    ∃ vs, Yaml.read bytes = .ok (.list vs) ∧ Value.sameAll vs items = true := by
  cases hread : Yaml.read bytes with
  | error f =>
    rw [hread] at h
    cases h
  | ok v =>
    rw [hread] at h
    obtain ⟨vs, rfl, hsame⟩ := Value.exists_of_same_list h
    exact ⟨vs, rfl, hsame⟩

theorem read_emptyBytes : Yaml.read emptyBytes = .ok (.list []) := by
  obtain ⟨vs, hread, hsame⟩ := exists_of_read emptyBytes [] (by decide +kernel)
  rwa [Value.eq_nil_of_sameAll hsame] at hread

theorem read_nestedBytes : Yaml.read nestedBytes = .ok (.list [.list []]) := by
  obtain ⟨vs, hread, hsame⟩ := exists_of_read nestedBytes [.list []] (by decide +kernel)
  rwa [eq_nested_of_sameAll hsame] at hread

theorem complete_environment : Complete Overridden.environment where
  required r := by
    cases r with
    | _ => exact ⟨_, rfl⟩
  supported := rfl

/-- **A list with an item is refused**, and an empty one does not show. -/
theorem rejected_lists :
    SettingsFile.read (opener nestedBytes) (some "c.yaml") = .error (.noMapping "c.yaml") ∧
    ofSources Overridden.environment (.mapping (sectionsOf [.list []])) =
      .error (.defect .retryShape) ∧
    ofSources Overridden.environment (.mapping (sectionsOf [])) =
      ofSources Overridden.environment (.mapping []) := by
  obtain ⟨hfile, hretry⟩ :=
    (rejected_unless_void (v := .list [.list []]) rfl).1 nofun
  obtain ⟨-, hvoid⟩ := (rejected_unless_void (v := .list []) rfl).2 .list
  refine ⟨hfile _ _ nestedBytes rfl rfl read_nestedBytes, ?_, ?_⟩
  · exact hretry _ _ complete_environment (entry?_sectionsOf _)
  · exact hvoid _ _ [] (entry?_sectionsOf []) rfl entry?_recordBase.symm

/-- **An empty list is not refused**, neither as a settings file nor as its
section on retries. -/
theorem emptyList_accepted :
    Yaml.read emptyBytes = .ok (.list []) ∧
    SettingsFile.read (opener emptyBytes) (some "c.yaml") =
      .ok ⟨[], [SettingsFile.notice "c.yaml"]⟩ ∧
    Value.entry? "retry" (sectionsOf []) = some (.list []) ∧
    ∃ s, ofSources Overridden.environment (.mapping (sectionsOf [])) = .ok s := by
  refine ⟨read_emptyBytes, ?_, entry?_sectionsOf [], ?_⟩
  · change SettingsFile.ofBytes "c.yaml" emptyBytes = _
    rw [SettingsFile.ofBytes, read_emptyBytes]
    rfl
  · have hnone : retrySection (sectionsOf []) = .ok [] := by
      rw [retrySection, entry?_sectionsOf]
      rfl
    have hvoid : ofSources Overridden.environment (.mapping (sectionsOf [])) =
        ofSources Overridden.environment (.mapping []) :=
      ofSources_of_void hnone rfl entry?_recordBase.symm
    rw [hvoid]
    exact ⟨_, rfl⟩

end Settings.Lists

end DeliveryAudit
