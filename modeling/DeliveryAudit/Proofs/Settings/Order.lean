import DeliveryAudit.Proofs.Settings.Fractions
/-!
# The order of the checks

The settings are checked in a fixed order (`Settings.Check.all`). Of the
violations that are noticed, the first is the one that is reported, however
many there are, and settings are made just if none is noticed
(`Settings.first_reported`). One violation is not noticed
(`Settings.Overlooked`): a count between minus one and zero.
-/

namespace DeliveryAudit

theorem Number.not_isFinite {x : Float} (h : x.isNaN = true ∨ x.isInf = true) :
    x.isFinite = false := by
  have h : x.toModel.unpack.isNaN = true ∨ x.toModel.unpack.isInf = true := h
  change x.toModel.unpack.isFinite = false
  generalize x.toModel.unpack = u at *
  cases u with
  | infinity sign => rfl
  | notANumber => rfl
  | zero sign => rcases h with h | h <;> cases h
  | finite sign mantissa exponent hpos => rcases h with h | h <;> cases h

/-- A number below zero is not above. -/
theorem Number.not_zero_le_of_lt {x : Float} (h : x < 0.0) : ¬ 0.0 ≤ x := by
  have hzero : (0.0 : Float).toModel.unpack = .zero .positive := rfl
  rw [lt_iff_compare, hzero] at h
  rw [le_iff_compare, hzero]
  generalize x.toModel.unpack = u at *
  cases u with
  | infinity sign =>
    cases sign with
    | positive => cases h
    | negative => nofun
  | notANumber => cases h
  | zero sign => cases h
  | finite sign mantissa exponent hpos =>
    cases sign with
    | positive => cases h
    | negative => nofun

namespace Settings

variable {env : Environment} {file v : Value} {entries : List (Value × Value)}
variable {t : Tunable} {f : Fault}

/-! ## Checks -/

/-- A check of the settings. -/
inductive Check where
  | required (r : Required)
  | supported
  | retries
  | tunable (t : Tunable)

/-- The checks, in their order. -/
def Check.all : List Check :=
  [.required .region, .required .bucket, .required .logGroup, .required .stem,
    .required .destination, .supported, .retries, .tunable .delay, .tunable .maxAttempts,
    .tunable .maxDuration, .tunable .recordBase]

theorem mem_all (c : Check) : c ∈ Check.all := by
  cases c with
  | required r => cases r <;> simp [Check.all]
  | supported => simp [Check.all]
  | retries => simp [Check.all]
  | tunable t => cases t <;> simp [Check.all]

/-- **What a tunable has to be**: a number that is finite and not negative. A
count is so before and after it is cut off at the point. -/
def Fit (t : Tunable) (v : Value) : Prop :=
  if isCount t then
    (∃ n, Tunable.toInteger v = .ok n ∧ 0 ≤ n) ∧ ∀ q, Denotes v q → 0 ≤ q
  else
    ∃ x, Tunable.toReal v = .ok x ∧ x.isFinite = true ∧ 0.0 ≤ x

/-- **What a check does not allow.** -/
def Violates (env : Environment) (entries : List (Value × Value)) : Check → Prop
  | .required r => env.value? r.variableName = none ∨ env.value? r.variableName = some ""
  | .supported => ∃ destination, env.value? "DESTINATION" = some destination ∧
      destination ≠ "" ∧ destination ≠ "s3" ∧ destination ≠ "cloudwatch"
  | .retries => ∃ v, Value.entry? "retry" entries = some v ∧ v.entries? = none ∧
      v.isTruthy = true
  | .tunable t => ¬ Fit t (effective env entries t)

/-- **What is overlooked**: a count below zero that is cut off to zero. -/
def Overlooked (env : Environment) (entries : List (Value × Value)) : Check → Prop
  | .tunable t => isCount t = true ∧ ∃ q, Denotes (effective env entries t) q ∧ -1 < q ∧ q < 0
  | _ => False

/-- **What is noticed**: every violation that is not overlooked. -/
def Noticed (env : Environment) (entries : List (Value × Value)) (c : Check) : Prop :=
  Violates env entries c ∧ ¬ Overlooked env entries c

/-- **The first violation that is noticed.** -/
def FirstNoticed (env : Environment) (entries : List (Value × Value)) (c : Check) : Prop :=
  Noticed env entries c ∧ ∃ before after, Check.all = before ++ c :: after ∧
    ∀ b ∈ before, ¬ Noticed env entries b

theorem ofName?_eq_none_iff {destination : String} :
    DestinationKind.ofName? destination = none ↔
      destination ≠ "s3" ∧ destination ≠ "cloudwatch" := by
  rw [DestinationKind.ofName?, List.find?_eq_none]
  constructor
  · intro h
    refine ⟨?_, ?_⟩
    · rintro rfl
      exact h .bucket (by decide) (by decide)
    · rintro rfl
      exact h .logStream (by decide) (by decide)
  · rintro ⟨hbucket, hlogStream⟩ kind - hname
    cases kind with
    | bucket => exact hbucket (eq_of_beq hname).symm
    | logStream => exact hlogStream (eq_of_beq hname).symm

/-! ## Objections -/

/-- **What there is to object to a value** as a tunable. -/
def Objects (t : Tunable) (v : Value) : Tunable.Objection → Prop
  | .noNumber =>
    if isCount t then ∀ n, Tunable.toInteger v ≠ .ok n else ∀ x, Tunable.toReal v ≠ .ok x
  | .notFinite => isCount t = false ∧ ∃ x, Tunable.toReal v = .ok x ∧ x.isFinite = false
  | .negative =>
    if isCount t then ∃ n, Tunable.toInteger v = .ok n ∧ n < 0
    else ∃ x, Tunable.toReal v = .ok x ∧ x.isFinite = true ∧ x < 0.0

/-- A count that is objected to is neither fit nor overlooked. -/
theorem Objects.count {o : Tunable.Objection} (ht : isCount t = true) (h : Objects t v o) :
    ¬ Fit t v ∧ ¬ ∃ q, Denotes v q ∧ -1 < q ∧ q < 0 := by
  have hneg : ∀ n, Tunable.toInteger v = .ok n → n < 0 := by
    intro n hn
    cases o with
    | noNumber =>
      rw [Objects, if_pos ht] at h
      exact absurd hn (h n)
    | notFinite =>
      rw [h.1] at ht
      cases ht
    | negative =>
      rw [Objects, if_pos ht] at h
      obtain ⟨m, hm, hneg⟩ := h
      obtain rfl := Except.ok.inj (hn.symm.trans hm)
      exact hneg
  constructor
  · rw [Fit, if_pos ht]
    rintro ⟨⟨n, hn, hnonneg⟩, -⟩
    exact absurd (hneg n hn) (Int.not_lt.2 hnonneg)
  · rintro ⟨q, hq, hlower, hupper⟩
    have hzero := hneg _ hq.toInteger_eq.1
    rw [Number.truncated_lt_zero_iff] at hzero
    linarith

/-- A time that is objected to is not fit. -/
theorem Objects.time {o : Tunable.Objection} (ht : isCount t = false) (h : Objects t v o) :
    ¬ Fit t v := by
  rw [Fit, if_neg (by simp [ht])]
  rintro ⟨x, hx, hfinite, hnonneg⟩
  cases o with
  | noNumber =>
    rw [Objects, if_neg (by simp [ht])] at h
    exact h x hx
  | notFinite =>
    obtain ⟨-, y, hy, hinfinite⟩ := h
    obtain rfl := Except.ok.inj (hx.symm.trans hy)
    rw [hinfinite] at hfinite
    cases hfinite
  | negative =>
    rw [Objects, if_neg (by simp [ht])] at h
    obtain ⟨y, hy, -, hneg⟩ := h
    obtain rfl := Except.ok.inj (hx.symm.trans hy)
    exact Number.not_zero_le_of_lt hneg hnonneg

/-- A count that is let through is fit unless it is overlooked. -/
theorem fit_or_overlooked {n : Int} (ht : isCount t = true) (hn : Tunable.toInteger v = .ok n)
    (hnonneg : 0 ≤ n) : Fit t v ∨ ∃ q, Denotes v q ∧ -1 < q ∧ q < 0 := by
  by_cases hq : ∀ q, Denotes v q → 0 ≤ q
  · rw [Fit, if_pos ht]
    exact .inl ⟨⟨n, hn, hnonneg⟩, hq⟩
  · push Not at hq
    obtain ⟨q, hq, hneg⟩ := hq
    refine .inr ⟨q, hq, lt_of_not_ge fun hle => ?_, hneg⟩
    obtain rfl := Except.ok.inj (hn.symm.trans hq.toInteger_eq.1)
    exact absurd (Number.truncated_lt_zero_iff.2 hle) (Int.not_lt.2 hnonneg)

/-! ## Complaints -/

variable [Bounds]

/-- Whether the check of a tunable converts the value to a number that is too
large, or that no integer is. -/
def Overflows (t : Tunable) (v : Value) : Prop := Escapes t v .tooLarge ∨ Escapes t v .infinite

/-- **What a check complains of.** -/
inductive Complains (env : Environment) (entries : List (Value × Value)) : Check → Defect → Prop
  | missing (r : Required) : Complains env entries (.required r) (.missing r)
  | unsupported {destination : String} (h : env.value? "DESTINATION" = some destination) :
    Complains env entries .supported (.unsupported destination)
  | retryShape : Complains env entries .retries .retryShape
  | tunable {t : Tunable} {o : Tunable.Objection} (h : Objects t (effective env entries t) o) :
    Complains env entries (.tunable t) (.tunable t o (effective env entries t))

/-- **How a complaint ends the checks**: it is reported, unless the value that
is complained of cannot be written. -/
inductive Raises : Defect → Fault → Prop
  | reported {d : Defect} : (∀ t o v, d = .tunable t o v → ∃ s, v.quoted? = .ok s) →
    Raises d (.defect d)
  | unwritable {t : Tunable} {o : Tunable.Objection} {v : Value} {e : Value.QuotingFault} :
    v.quoted? = .error e → Raises (.tunable t o v) (.unwritable e)

/-! ## What a check finds -/

/-- What a check finds. -/
def finding (env : Environment) (entries : List (Value × Value)) : Check → Option Fault
  | .required r => faultOf? (require env r)
  | .supported => kindFault? env
  | .retries => faultOf? (retrySection entries)
  | .tunable t => tunableFault? t (effective env entries t)

theorem checks_eq (env : Environment) (entries : List (Value × Value)) :
    checks env entries = Check.all.map (finding env entries) := rfl

/-- **A check**: it finds the fault of its complaint where a violation is
noticed, and nothing where none is. -/
def Decides (env : Environment) (entries : List (Value × Value)) (c : Check) : Prop :=
  (¬ Noticed env entries c ∧ finding env entries c = none) ∨
    Noticed env entries c ∧
      ∃ d f, Complains env entries c d ∧ Raises d f ∧ finding env entries c = some f

theorem decides_required (env : Environment) (entries : List (Value × Value)) (r : Required) :
    Decides env entries (.required r) := by
  simp only [Decides, Noticed, Violates, Overlooked, finding, require, Environment.nonempty?]
  cases env.value? r.variableName with
  | none => exact .inr ⟨⟨.inl rfl, id⟩, _, _, .missing r, .reported (by rintro _ _ _ ⟨⟩), rfl⟩
  | some s =>
    by_cases hs : s = ""
    · subst hs
      exact .inr ⟨⟨.inr rfl, id⟩, _, _, .missing r, .reported (by rintro _ _ _ ⟨⟩), rfl⟩
    · refine .inl ⟨fun h => ?_, ?_⟩
      · rcases h.1 with h | h
        · cases h
        · exact hs (Option.some.inj h)
      · rw [Option.filter_some, if_pos (by simpa using hs)]
        rfl

theorem decides_supported (env : Environment) (entries : List (Value × Value)) :
    Decides env entries .supported := by
  simp only [Decides, Noticed, Violates, Overlooked, finding, kindFault?, Environment.nonempty?,
    Required.variableName]
  cases henv : env.value? "DESTINATION" with
  | none =>
    refine .inl ⟨?_, rfl⟩
    rintro ⟨⟨d, hd, -⟩, -⟩
    cases hd
  | some destination =>
    by_cases hs : destination = ""
    · subst hs
      refine .inl ⟨?_, rfl⟩
      rintro ⟨⟨d, hd, hne, -⟩, -⟩
      exact hne (Option.some.inj hd).symm
    rw [Option.filter_some, if_pos (by simpa using hs), Option.bind_some, kindOf]
    cases hkind : DestinationKind.ofName? destination with
    | none =>
      exact .inr ⟨⟨⟨destination, rfl, hs, ofName?_eq_none_iff.1 hkind⟩, id⟩, _, _,
        .unsupported henv, .reported (by rintro _ _ _ ⟨⟩), rfl⟩
    | some kind =>
      refine .inl ⟨?_, rfl⟩
      rintro ⟨⟨d, hd, -, hne⟩, -⟩
      obtain rfl := Option.some.inj hd
      rw [ofName?_eq_none_iff.2 hne] at hkind
      cases hkind

theorem decides_retries (env : Environment) (entries : List (Value × Value)) :
    Decides env entries .retries := by
  simp only [Decides, Noticed, Violates, Overlooked, finding, retrySection]
  cases hv : Value.entry? "retry" entries with
  | none =>
    refine .inl ⟨?_, rfl⟩
    rintro ⟨⟨v, hv, -⟩, -⟩
    cases hv
  | some v =>
    rw [Option.getD_some]
    cases hentries : v.entries? with
    | some retries =>
      refine .inl ⟨?_, rfl⟩
      rintro ⟨⟨w, hw, hnone, -⟩, -⟩
      obtain rfl := Option.some.inj hw
      rw [hnone] at hentries
      cases hentries
    | none =>
      cases htruthy : v.isTruthy with
      | true =>
        exact .inr ⟨⟨⟨v, rfl, hentries, htruthy⟩, id⟩, _, _, .retryShape,
          .reported (by rintro _ _ _ ⟨⟩), rfl⟩
      | false =>
        refine .inl ⟨?_, rfl⟩
        rintro ⟨⟨w, hw, -, hfalse⟩, -⟩
        obtain rfl := Option.some.inj hw
        rw [htruthy] at hfalse
        cases hfalse

/-! ### Tunables -/

/-- An objection is complained of, whether or not the value can be
written. -/
theorem raises_refused (t : Tunable) (o : Tunable.Objection) (v : Value) :
    Raises (.tunable t o v) (refused t v (.objection o)) := by
  cases hquoted : v.quoted? with
  | ok s =>
    rw [refused, hquoted]
    refine .reported fun t' o' v' h => ?_
    cases h
    exact ⟨s, hquoted⟩
  | error e =>
    rw [refused, hquoted]
    exact .unwritable hquoted

/-- **A count is objected to**, or it is fit unless it is overlooked. -/
theorem count_cases (ht : isCount t = true) (hcast : ¬ Overflows t v) :
    (∃ o, Objects t v o ∧ Tunable.count v = .error (.objection o)) ∨
      ∃ n, Tunable.toInteger v = .ok n ∧ 0 ≤ n ∧ Tunable.count v = .ok n := by
  rcases Tunable.toInteger_cases v with ⟨n, hn⟩ | hn | ⟨x, negative, hx, hparts, -⟩
  · have hlarge : ¬ Number.rangeLimit ≤ n.natAbs := fun hlarge =>
      hcast (.inl (.tooLarge n (by rwa [Converts, if_pos ht]) hlarge))
    obtain ⟨x, hx⟩ := Option.ne_none_iff_exists'.1
      (mt (Number.ofInt?_eq_none_iff n).1 hlarge)
    by_cases hneg : n < 0
    · refine .inl ⟨.negative, ?_, ?_⟩
      · rw [Objects, if_pos ht]
        exact ⟨n, hn, hneg⟩
      · simp only [Tunable.count, hn, hx, if_pos hneg]
    · refine .inr ⟨n, hn, Int.not_lt.1 hneg, ?_⟩
      simp only [Tunable.count, hn, hx, if_neg hneg]
  · refine .inl ⟨.noNumber, ?_, ?_⟩
    · rw [Objects, if_pos ht]
      intro n h
      rw [hn] at h
      cases h
    · simp only [Tunable.count, hn]
  · exact absurd (.inr (.infinite x negative ht hx hparts)) hcast

/-- **A time is objected to**, or it is fit. -/
theorem time_cases (ht : isCount t = false) (hcast : ¬ Overflows t v) :
    (∃ o, Objects t v o ∧ Tunable.time v = .error (.objection o)) ∨
      ∃ x, Tunable.time v = .ok x := by
  rcases Tunable.toReal_cases v with ⟨x, hx⟩ | hx | ⟨n, rfl, hlarge, -⟩
  · cases hfinite : x.isNaN || x.isInf with
    | true =>
      refine .inl ⟨.notFinite, ⟨ht, x, hx, ?_⟩, ?_⟩
      · exact Number.not_isFinite (by rwa [Bool.or_eq_true] at hfinite)
      · simp only [Tunable.time, hx, hfinite, if_true]
    | false =>
      by_cases hneg : x < 0.0
      · refine .inl ⟨.negative, ?_, ?_⟩
        · rw [Objects, if_neg (by simp [ht])]
          rw [Bool.or_eq_false_iff] at hfinite
          exact ⟨x, hx, Number.isFinite_of_not hfinite.1 hfinite.2, hneg⟩
        · simp only [Tunable.time, hx, hfinite, if_pos hneg, Bool.false_eq_true, if_false]
      · refine .inr ⟨x, ?_⟩
        simp only [Tunable.time, hx, hfinite, if_neg hneg, Bool.false_eq_true, if_false]
  · refine .inl ⟨.noNumber, ?_, ?_⟩
    · rw [Objects, if_neg (by simp [ht])]
      intro x h
      rw [hx] at h
      cases h
    · simp only [Tunable.time, hx]
  · refine absurd (.inl (.tooLarge n ?_ ((Number.ofInt?_eq_none_iff n).1 hlarge))) hcast
    rw [Converts, if_neg (by simp [ht])]

theorem decides_tunable (hcast : ¬ Overflows t (effective env entries t)) :
    Decides env entries (.tunable t) := by
  simp only [Decides, Noticed, Violates, Overlooked, finding, tunableFault?_eq]
  have hcomplains : ∀ o, Objects t (effective env entries t) o →
      Complains env entries (.tunable t) (.tunable t o (effective env entries t)) := fun o ho =>
    .tunable ho
  generalize effective env entries t = v at *
  cases ht : isCount t with
  | true =>
    rw [if_pos rfl]
    rcases count_cases ht hcast with ⟨o, ho, hcount⟩ | ⟨n, hn, hnonneg, hcount⟩
    · obtain ⟨hfit, hoverlooked⟩ := ho.count ht
      refine .inr ⟨⟨hfit, fun h => hoverlooked h.2⟩, _, _, hcomplains o ho,
        raises_refused t o v, ?_⟩
      exact faultOf?_tune_eq_some_iff.2 ⟨_, hcount, rfl⟩
    · refine .inl ⟨fun h => ?_, by rw [tune, hcount]; rfl⟩
      rcases fit_or_overlooked ht hn hnonneg with hfit | hoverlooked
      · exact h.1 hfit
      · exact h.2 ⟨rfl, hoverlooked⟩
  | false =>
    rw [if_neg (by decide)]
    rcases time_cases ht hcast with ⟨o, ho, htime⟩ | ⟨x, htime⟩
    · refine .inr ⟨⟨ho.time ht, fun h => Bool.false_ne_true h.1⟩, _, _, hcomplains o ho,
        raises_refused t o v, ?_⟩
      exact faultOf?_tune_eq_some_iff.2 ⟨_, htime, rfl⟩
    · refine .inl ⟨fun h => h.1 ?_, by rw [tune, htime]; rfl⟩
      rw [Fit, if_neg (by simp [ht])]
      exact ⟨x, toReal_of_time htime, Tunable.time_spec htime⟩

/-! ## The first check that finds something -/

/-- Only its sections show of what is read from a file. -/
theorem ofSources_of_sections (h : sections file = .ok entries) :
    ofSources env file = ofSources env (.mapping entries) := by
  have hsections : sections (.mapping entries) = .ok entries := rfl
  rw [ofSources, ofSources, h, hsections]

theorem decides_of_mem (hcast : ∀ t, ¬ Overflows t (effective env entries t)) (c : Check) :
    Decides env entries c := by
  cases c with
  | required r => exact decides_required env entries r
  | supported => exact decides_supported env entries
  | retries => exact decides_retries env entries
  | tunable t => exact decides_tunable (hcast t)

/-- **The first is reported.** Of the violations that are noticed, the first
ends the checks with its complaint, whatever else is wrong, and settings are
made just if none is noticed. -/
theorem first_reported (h : sections file = .ok entries)
    (hcast : ∀ t, ¬ Overflows t (effective env entries t)) :
    (∀ c, FirstNoticed env entries c →
      ∃ d f, Complains env entries c d ∧ Raises d f ∧ ofSources env file = .error f) ∧
    ((∃ s, ofSources env file = .ok s) ↔ ∀ c, ¬ Noticed env entries c) := by
  rw [ofSources_of_sections h]
  have herror : ∀ f, ofSources env (.mapping entries) = .error f ↔
      Check.all.findSome? (finding env entries) = some f := by
    intro f
    rw [ofSources_eq_error_iff rfl, checks_eq, List.findSome?_map]
    rfl
  have hnone : ∀ c, finding env entries c = none ↔ ¬ Noticed env entries c := by
    intro c
    rcases decides_of_mem hcast c with ⟨hc, hfinding⟩ | ⟨hc, d, f, -, -, hfinding⟩
    · exact iff_of_true hfinding hc
    · exact iff_of_false (by rw [hfinding]; nofun) (not_not.2 hc)
  constructor
  · rintro c ⟨hc, before, after, hall, hbefore⟩
    rcases decides_of_mem hcast c with ⟨hnot, -⟩ | ⟨-, d, f, hd, hf, hfinding⟩
    · exact absurd hc hnot
    · refine ⟨d, f, hd, hf, (herror f).2 ?_⟩
      rw [hall, List.findSome?_append,
        List.findSome?_eq_none_iff.2 fun b hb => (hnone b).2 (hbefore b hb), Option.none_or,
        List.findSome?_cons, hfinding]
  · constructor
    · rintro ⟨s, hs⟩ c hc
      have hall : Check.all.findSome? (finding env entries) = none := by
        rw [Option.eq_none_iff_forall_ne_some]
        intro f hf
        rw [(herror f).2 hf] at hs
        cases hs
      exact (hnone c).1 (List.findSome?_eq_none_iff.1 hall c (mem_all c)) hc
    · intro hc
      cases hresult : ofSources env (.mapping entries) with
      | ok s => exact ⟨s, rfl⟩
      | error f =>
        have hall : Check.all.findSome? (finding env entries) = none :=
          List.findSome?_eq_none_iff.2 fun c _ => (hnone c).2 (hc c)
        rw [(herror f).1 hresult] at hall
        cases hall

/-! ## Values that do not overflow -/

theorem not_overflows_of_manageable (h : Manageable t v) : ¬ Overflows t v := by
  rintro (h' | h')
  · exact h.not_escapes h'
  · exact h.not_escapes h'

/-- The usual numbers can be handled. -/
theorem manageable_usual (t : Tunable) : Manageable t t.usual := by
  cases t with
  | delay => exact manageable_real (rfl : Number.parts 1.0 = .finite false Number.hiddenBit (-52))
  | maxAttempts => exact manageable_int (Number.lt_middle (by decide))
  | maxDuration => exact manageable_real (rfl : Number.parts 0.0 = .finite false 0 (-1074))
  | recordBase => exact manageable_int (Number.lt_middle (by decide))

/-- A text is not infinite where an integer is asked for. -/
theorem not_overflows_text {s : String}
    (h : ∀ n, Tunable.toInteger (.ofString s) = .ok n → n.natAbs < Number.rangeLimit) :
    ¬ Overflows t (.ofString s) := by
  rintro (h' | h')
  · cases h' with
    | tooLarge n hn hlarge =>
      unfold Converts at hn
      split at hn
      · exact Nat.not_lt.2 hlarge (h n hn)
      · cases hn
  · cases h' with
    | infinite x negative ht hv hx => cases hv

end Settings

/-! ## Violations that are not reported

A delay is a list of an integer that is too long to be written, and a number of
attempts is minus a half. -/

namespace Settings.Unreported

local instance : Bounds := .usual

/-- A list of an integer of 4301 digits. -/
def longList : Value := .list [.int (10 ^ Number.digitLimit)]

/-- The entries of a settings file with this list as the delay. -/
def longEntries : List (Value × Value) :=
  Overridden.sectionsOf [(.ofString "delay_seconds", longList)]

theorem quoted?_longList : longList.quoted? = .error .tooLong := by
  have hlong : ∀ n, Number.decimal? n = none →
      (Value.list [.int n]).quoted? = .error .tooLong := by
    intro n hn
    simp only [Value.quoted?, Value.quotedIn, Value.quotedAll, Value.inside, hn]
    rfl
  refine hlong _ ?_
  rw [Number.decimal?_eq (by positivity), if_neg (lt_irrefl _)]

theorem effective_longEntries (t : Tunable) :
    effective Overridden.environment longEntries t =
      if t = .maxAttempts then .ofString "5" else if t = .delay then longList else t.usual := by
  rw [effective_eq, longEntries, Overridden.given_sectionsOf, Value.entry?_cons]
  cases t with
  | _ => rfl

theorem not_overflows_longEntries (t : Tunable) :
    ¬ Overflows t (effective Overridden.environment longEntries t) := by
  rw [effective_longEntries]
  cases t with
  | delay =>
    rintro (h | h)
    · cases h with
      | tooLarge n hn hlarge => cases hn
    · cases h with
      | infinite x negative ht hv hx => cases ht
  | maxAttempts =>
    exact not_overflows_text fun n hn => by
      obtain rfl := Except.ok.inj ((rfl : Tunable.toInteger (.ofString "5") = .ok 5).symm.trans hn)
      exact Number.lt_middle (by decide)
  | maxDuration => exact not_overflows_of_manageable (manageable_usual _)
  | recordBase => exact not_overflows_of_manageable (manageable_usual _)

/-- Every check before that of the delay finds nothing. -/
theorem firstNoticed_longEntries :
    FirstNoticed Overridden.environment longEntries (.tunable .delay) := by
  have hfit : ¬ Fit .delay longList := by
    rintro ⟨x, hx, -⟩
    cases hx
  have hset : ∀ r : Required, Overridden.environment.value? r.variableName ≠ none ∧
      Overridden.environment.value? r.variableName ≠ some "" := by
    intro r
    cases r with
    | _ => decide
  refine ⟨⟨?_, fun h => nomatch h.1⟩, [.required .region, .required .bucket, .required .logGroup,
    .required .stem, .required .destination, .supported, .retries], _, rfl, fun b hb h => ?_⟩
  · rw [Violates, effective_longEntries]
    exact hfit
  · cases b with
    | required r =>
      rcases h.1 with h | h
      · exact (hset r).1 h
      · exact (hset r).2 h
    | supported =>
      obtain ⟨destination, hdestination, -, hbucket, -⟩ := h.1
      exact hbucket (Option.some.inj hdestination).symm
    | retries =>
      obtain ⟨v, hv, hentries, -⟩ := h.1
      obtain rfl := Option.some.inj ((Overridden.entry?_sectionsOf _).symm.trans hv)
      cases hentries
    | tunable t => simp at hb

theorem not_overflows_sectionsOf_minusHalf (t : Tunable) :
    ¬ Overflows t (effective Attempts.environment (Attempts.sectionsOf Attempts.minusHalf) t) := by
  rw [Attempts.effective_sectionsOf]
  split
  · exact not_overflows_of_manageable
      (manageable_real (rfl : Number.parts (-0.5) = .finite true Number.hiddenBit (-53)))
  · exact not_overflows_of_manageable (manageable_usual t)

theorem violates_sectionsOf_minusHalf :
    Violates Attempts.environment (Attempts.sectionsOf Attempts.minusHalf)
      (.tunable .maxAttempts) := by
  rw [Violates, Attempts.effective_sectionsOf, if_pos rfl, Fit, if_pos (by decide)]
  rintro ⟨-, hnonneg⟩
  exact absurd (hnonneg _ Attempts.denotes_minusHalf) (by norm_num)

/-- **Violations that are not reported.** The delay is no number, and nothing
before it is wrong, but the list that it is cannot be written. The number of
attempts is negative, and is accepted. -/
theorem first_unreported :
    ((∀ t, ¬ Overflows t (effective Overridden.environment longEntries t)) ∧
      FirstNoticed Overridden.environment longEntries (.tunable .delay) ∧
      ofSources Overridden.environment (.mapping longEntries) = .error (.unwritable .tooLong)) ∧
    (∀ t, ¬ Overflows t
      (effective Attempts.environment (Attempts.sectionsOf Attempts.minusHalf) t)) ∧
    Violates Attempts.environment (Attempts.sectionsOf Attempts.minusHalf)
      (.tunable .maxAttempts) ∧
    ofSources Attempts.environment (Attempts.settingsFile Attempts.minusHalf) =
      .ok (Attempts.settings 0) := by
  refine ⟨⟨not_overflows_longEntries, firstNoticed_longEntries, ?_⟩,
    not_overflows_sectionsOf_minusHalf, violates_sectionsOf_minusHalf, ?_⟩
  · have hsections : sections (.mapping longEntries) = .ok longEntries := rfl
    obtain ⟨d, f, hd, hf, hfault⟩ :=
      (first_reported hsections not_overflows_longEntries).1 _ firstNoticed_longEntries
    have heffective : effective Overridden.environment longEntries .delay = longList :=
      effective_longEntries .delay
    cases hd with
    | tunable ho =>
      rw [heffective] at hf
      cases hf with
      | reported hwritten =>
        obtain ⟨s, hs⟩ := hwritten _ _ _ rfl
        rw [quoted?_longList] at hs
        cases hs
      | unwritable h =>
        obtain rfl := Except.error.inj (quoted?_longList.symm.trans h)
        exact hfault
  · rw [Attempts.ofSources_settingsFile]
    rfl

end Settings.Unreported

end DeliveryAudit
