import DeliveryAudit.Proofs.Except
import DeliveryAudit.Settings
/-!
# The checks of the settings

The settings are checked in a fixed order (`Settings.checks`), and the
first fault that is found is the one reported
(`Settings.ofSources_eq_error_iff`). Where none is found, every setting is
what its source says (`Settings.readFrom_of_ofSources`).
-/

namespace DeliveryAudit

namespace Settings

variable {env : Environment} {file : Value} {entries retries : List (Value × Value)}
variable {s : Settings} {f : Fault} {t : Tunable} {v : Value}

/-! ## Values -/

/-- The entries of the section on retries. -/
def retryEntries (entries : List (Value × Value)) : List (Value × Value) :=
  (((Value.entry? "retry" entries).getD .null).entries?).getD []

theorem eq_retryEntries (h : retrySection entries = .ok retries) :
    retries = retryEntries entries := by
  rw [retryEntries]
  cases hv : ((Value.entry? "retry" entries).getD .null).entries? with
  | some es =>
    simp only [retrySection, hv] at h
    exact (Except.ok.inj h).symm
  | none =>
    simp only [retrySection, hv] at h
    split at h
    · cases h
    · exact (Except.ok.inj h).symm

/-- The value that is checked as a tunable. -/
def effective (env : Environment) (entries : List (Value × Value)) (t : Tunable) : Value :=
  source env t (if t = .recordBase then entries else retryEntries entries)

/-! ## Checks in order -/

/-- The fault of a check, if it finds one. -/
def faultOf? {α : Type} : Except Fault α → Option Fault
  | .error f => some f
  | .ok _ => none

/-- **The first check decides**, unless it finds nothing. -/
theorem bind_eq_error_iff {α β : Type} {x : Except Fault α} {next : α → Except Fault β}
    {rest : List (Option Fault)}
    (h : ∀ a, x = .ok a → (next a = .error f ↔ rest.findSome? id = some f)) :
    x >>= next = .error f ↔ (faultOf? x :: rest).findSome? id = some f := by
  cases x with
  | error e =>
    change Except.error e = Except.error f ↔ some e = some f
    rw [Except.error.injEq, Option.some.injEq]
  | ok a => exact h a rfl

theorem nonempty?_of_require {r : Required} {s : String} (h : require env r = .ok s) :
    env.nonempty? r.variableName = some s := by
  unfold require at h
  cases hs : env.nonempty? r.variableName with
  | none =>
    rw [hs] at h
    cases h
  | some s' =>
    rw [hs] at h
    exact congrArg some (Except.ok.inj h)

/-- The kind of a destination that is supported has its name. -/
theorem name_of_kindOf {destination : String} {kind : DestinationKind}
    (h : kindOf destination = .ok kind) :
    DestinationKind.ofName? destination = some kind ∧ kind.name = destination := by
  unfold kindOf at h
  cases hkind : DestinationKind.ofName? destination with
  | none =>
    rw [hkind] at h
    cases h
  | some kind' =>
    rw [hkind] at h
    cases h
    exact ⟨rfl, eq_of_beq (List.find?_some (p := fun k : DestinationKind => k.name == destination)
      hkind)⟩

variable [Bounds]

/-- What the check of a tunable finds. -/
def tunableFault? (t : Tunable) (v : Value) : Option Fault :=
  match t with
  | .delay | .maxDuration => faultOf? (tune Tunable.time t v)
  | .maxAttempts | .recordBase => faultOf? (tune Tunable.count t v)

/-- What the check of the destination finds, where there is one. -/
def kindFault? (env : Environment) : Option Fault :=
  (env.nonempty? Required.destination.variableName).bind fun d => faultOf? (kindOf d)

/-- What the checks find, in order. -/
def checks (env : Environment) (entries : List (Value × Value)) : List (Option Fault) :=
  [faultOf? (require env .region), faultOf? (require env .bucket),
    faultOf? (require env .logGroup), faultOf? (require env .stem),
    faultOf? (require env .destination), kindFault? env, faultOf? (retrySection entries),
    tunableFault? .delay (effective env entries .delay),
    tunableFault? .maxAttempts (effective env entries .maxAttempts),
    tunableFault? .maxDuration (effective env entries .maxDuration),
    tunableFault? .recordBase (effective env entries .recordBase)]

/-- **The first fault is the one reported**, whatever else is wrong. -/
theorem ofSources_eq_error_iff (h : file.entries? = some entries) :
    ofSources env file = .error f ↔ (checks env entries).findSome? id = some f := by
  have hsections : sections file = .ok entries := by rw [sections, h]
  unfold ofSources checks
  -- One check after another, each where those before have found nothing.
  refine bind_eq_error_iff fun region hregion => ?_
  refine bind_eq_error_iff fun bucket hbucket => ?_
  refine bind_eq_error_iff fun logGroup hlogGroup => ?_
  refine bind_eq_error_iff fun stem hstem => ?_
  refine bind_eq_error_iff fun destination hdestination => ?_
  rw [kindFault?, nonempty?_of_require hdestination, Option.bind_some]
  refine bind_eq_error_iff fun kind hkind => ?_
  rw [hsections]
  change retrySection entries >>= _ = _ ↔ _
  refine bind_eq_error_iff fun retries hretries => ?_
  obtain rfl := eq_retryEntries hretries
  refine bind_eq_error_iff fun delay hdelay => ?_
  refine bind_eq_error_iff fun maxAttempts hmaxAttempts => ?_
  refine bind_eq_error_iff fun maxDuration hmaxDuration => ?_
  refine bind_eq_error_iff fun recordBase hrecordBase => ?_
  exact iff_of_false nofun nofun

theorem of_tune {α : Type} {check : Value → Except Tunable.Refusal α} {a : α}
    (h : tune check t v = .ok a) : check v = .ok a := by
  unfold tune at h
  split at h
  · next a' ha' => rw [ha', Except.ok.inj h]
  · cases h

/-- **Settings by their sources.** -/
structure ReadFrom (env : Environment) (entries : List (Value × Value)) (s : Settings) : Prop where
  region : env.nonempty? Required.region.variableName = some s.region
  bucket : env.nonempty? Required.bucket.variableName = some s.bucket
  logGroup : env.nonempty? Required.logGroup.variableName = some s.logGroup
  stem : env.nonempty? Required.stem.variableName = some s.stem
  destination : env.nonempty? Required.destination.variableName = some s.destination
  supported : ∃ kind, DestinationKind.ofName? s.destination = some kind
  delay : Tunable.time (effective env entries .delay) = .ok s.budget.delay
  maxAttempts : Tunable.count (effective env entries .maxAttempts) = .ok s.budget.maxAttempts
  maxDuration : Tunable.time (effective env entries .maxDuration) = .ok s.budget.maxDuration
  recordBase : Tunable.count (effective env entries .recordBase) = .ok s.recordBase

/-- **Where no fault is found**, every setting is what its source says. -/
theorem readFrom_of_ofSources (h : file.entries? = some entries) (hs : ofSources env file = .ok s) :
    ReadFrom env entries s := by
  have hsections : sections file = .ok entries := by rw [sections, h]
  unfold ofSources at hs
  obtain ⟨region, hregion, hs⟩ := Except.exists_of_bind_eq_ok hs
  obtain ⟨bucket, hbucket, hs⟩ := Except.exists_of_bind_eq_ok hs
  obtain ⟨logGroup, hlogGroup, hs⟩ := Except.exists_of_bind_eq_ok hs
  obtain ⟨stem, hstem, hs⟩ := Except.exists_of_bind_eq_ok hs
  obtain ⟨destination, hdestination, hs⟩ := Except.exists_of_bind_eq_ok hs
  obtain ⟨kind, hkind, hs⟩ := Except.exists_of_bind_eq_ok hs
  rw [hsections] at hs
  change retrySection entries >>= _ = _ at hs
  obtain ⟨retries, hretries, hs⟩ := Except.exists_of_bind_eq_ok hs
  obtain rfl := eq_retryEntries hretries
  obtain ⟨delay, hdelay, hs⟩ := Except.exists_of_bind_eq_ok hs
  obtain ⟨maxAttempts, hmaxAttempts, hs⟩ := Except.exists_of_bind_eq_ok hs
  obtain ⟨maxDuration, hmaxDuration, hs⟩ := Except.exists_of_bind_eq_ok hs
  obtain ⟨recordBase, hrecordBase, hs⟩ := Except.exists_of_bind_eq_ok hs
  cases hs
  obtain ⟨hsupported, hname⟩ := name_of_kindOf hkind
  exact {
    region := nonempty?_of_require hregion
    bucket := nonempty?_of_require hbucket
    logGroup := nonempty?_of_require hlogGroup
    stem := nonempty?_of_require hstem
    destination := hname ▸ nonempty?_of_require hdestination
    supported := ⟨kind, hname ▸ hsupported⟩
    delay := of_tune hdelay
    maxAttempts := of_tune hmaxAttempts
    maxDuration := of_tune hmaxDuration
    recordBase := of_tune hrecordBase }

end Settings

end DeliveryAudit
