import DeliveryAudit.Proofs.Service.Entries
import DeliveryAudit.Proofs.Settings.Checks
/-!
# Which source of a setting counts

A required setting comes from the environment alone. A tunable comes from its
variable, else from its entry in the settings file, else it is the usual one
(`Settings.Comes`), whatever the others are. So of a settings file nothing
shows but the entries of the tunables whose variables are not set
(`Settings.sources_precedence`).
-/

namespace DeliveryAudit

namespace Settings

variable {env : Environment} {file : Value} {entries others : List (Value × Value)}
variable {s : Settings} {t : Tunable} {v : Value}

/-- The section on retries is missing, null or a mapping. -/
def PlainRetries (entries : List (Value × Value)) : Prop :=
  ∀ v, Value.entry? "retry" entries = some v → v = .null ∨ ∃ retries, v.entries? = some retries

/-- The entry of a tunable in the settings file. The base of the records
stands on top, the others in the section on retries. -/
def given (entries : List (Value × Value)) (t : Tunable) : Option Value :=
  Value.entry? t.entryName (if t = .recordBase then entries else retryEntries entries)

/-- **The source of a tunable**: the cast of the text of its variable, also
of an empty one; without the variable, the cast of its entry in the file;
without both, the usual number. -/
inductive Comes {α : Type} (cast : Value → Except Tunable.Refusal α) (usual : α)
    (env : Environment) (entries : List (Value × Value)) (t : Tunable) : α → Prop
  | fromVariable {s : String} {a : α} : env.value? t.variableName = some s →
      cast (.ofString s) = .ok a → Comes cast usual env entries t a
  | fromFile {v : Value} {a : α} : env.value? t.variableName = none → given entries t = some v →
      cast v = .ok a → Comes cast usual env entries t a
  | fromNowhere : env.value? t.variableName = none → given entries t = none →
      Comes cast usual env entries t usual

/-- The setting that is required under this name. -/
def required (s : Settings) : Required → String
  | .region => s.region
  | .bucket => s.bucket
  | .logGroup => s.logGroup
  | .stem => s.stem
  | .destination => s.destination

/-- **Every setting by its own source.** -/
structure Sourced (env : Environment) (entries : List (Value × Value)) (s : Settings) : Prop where
  required : ∀ r : Required, env.value? r.variableName = some (s.required r) ∧ s.required r ≠ ""
  delay : Comes Tunable.toReal 1.0 env entries .delay s.budget.delay
  maxAttempts : Comes Tunable.toInteger 0 env entries .maxAttempts s.budget.maxAttempts
  maxDuration : Comes Tunable.toReal 0.0 env entries .maxDuration s.budget.maxDuration
  recordBase : Comes Tunable.toInteger 10000000 env entries .recordBase s.recordBase

/-! ## What shows of a settings file -/

/-- The settings that an environment and the values of the tunables make. -/
def ofValues [Bounds] (env : Environment) (value : Tunable → Value) : Except Fault Settings := do
  let region ← require env .region
  let bucket ← require env .bucket
  let logGroup ← require env .logGroup
  let stem ← require env .stem
  let destination ← require env .destination
  let kind ← kindOf destination
  let delay ← tune Tunable.time .delay (value .delay)
  let maxAttempts ← tune Tunable.count .maxAttempts (value .maxAttempts)
  let maxDuration ← tune Tunable.time .maxDuration (value .maxDuration)
  let recordBase ← tune Tunable.count .recordBase (value .recordBase)
  return ⟨region, bucket, logGroup, stem, kind.name, recordBase, ⟨delay, maxAttempts, maxDuration⟩⟩

theorem retrySection_of_plain (h : PlainRetries entries) :
    retrySection entries = .ok (retryEntries entries) := by
  unfold retrySection retryEntries
  cases hv : Value.entry? "retry" entries with
  | none => rfl
  | some v =>
    rcases h v hv with rfl | ⟨retries, hretries⟩
    · rfl
    · simp only [Option.getD_some, hretries]

/-- **A settings file shows only in the values of the tunables.** -/
theorem ofSources_eq_ofValues [Bounds] (h : file.entries? = some entries)
    (hplain : PlainRetries entries) :
    ofSources env file = ofValues env (effective env entries) := by
  have hsections : sections file = pure entries := by
    rw [sections, h]
    rfl
  have hretries : retrySection entries = pure (retryEntries entries) := retrySection_of_plain hplain
  have hsource : ∀ t, t ≠ .recordBase →
      effective env entries t = source env t (retryEntries entries) := fun t ht => by
    rw [effective, if_neg ht]
  have hbase : effective env entries .recordBase = source env .recordBase entries := by
    rw [effective, if_pos rfl]
  have hdelay := hsource .delay (by decide)
  have hmaxAttempts := hsource .maxAttempts (by decide)
  have hmaxDuration := hsource .maxDuration (by decide)
  simp only [ofSources, ofValues, hsections, hretries, pure_bind, hdelay, hmaxAttempts,
    hmaxDuration, hbase]

theorem effective_eq (env : Environment) (entries : List (Value × Value)) (t : Tunable) :
    effective env entries t =
      (env.value? t.variableName).elim ((given entries t).getD t.usual) Value.ofString := by
  rw [effective, source, given]
  cases env.value? t.variableName with
  | none => rfl
  | some s => rfl

/-- An entry shows only where its variable is not set. -/
theorem effective_congr
    (h : ∀ t : Tunable, env.value? t.variableName = none → given entries t = given others t) :
    effective env entries = effective env others := by
  funext t
  rw [effective_eq, effective_eq]
  cases henv : env.value? t.variableName with
  | none => rw [h t henv]
  | some s => rfl

/-! ## Where the settings come from -/

theorem toReal_of_time {x : Float} (h : Tunable.time v = .ok x) : Tunable.toReal v = .ok x := by
  unfold Tunable.time at h
  split at h
  · cases h
  · next y hy =>
    split at h
    · cases h
    · split at h
      · cases h
      · rw [hy, Except.ok.inj h]

theorem toInteger_of_count {n : Int} (h : Tunable.count v = .ok n) :
    Tunable.toInteger v = .ok n := by
  unfold Tunable.count at h
  split at h
  · cases h
  · next m hm =>
    split at h
    · cases h
    · split at h
      · cases h
      · rw [hm, Except.ok.inj h]

/-- A tunable comes from what its checked value comes from. -/
theorem comes_of_effective {α : Type} {cast : Value → Except Tunable.Refusal α} {usual a : α}
    (h : cast (effective env entries t) = .ok a) (husual : cast t.usual = .ok usual) :
    Comes cast usual env entries t a := by
  rw [effective_eq] at h
  cases henv : env.value? t.variableName with
  | some s =>
    rw [henv] at h
    exact .fromVariable henv h
  | none =>
    rw [henv] at h
    cases hgiven : given entries t with
    | some v =>
      rw [hgiven] at h
      exact .fromFile henv hgiven h
    | none =>
      rw [hgiven] at h
      obtain rfl := Except.ok.inj (husual.symm.trans h)
      exact .fromNowhere henv hgiven

theorem value?_of_nonempty? {name text : String} (h : env.nonempty? name = some text) :
    env.value? name = some text ∧ text ≠ "" := by
  rw [Environment.nonempty?, Option.filter_eq_some_iff] at h
  refine ⟨h.1, ?_⟩
  rintro rfl
  exact absurd h.2 (by decide)

theorem ReadFrom.sourced (h : ReadFrom env entries s) : Sourced env entries s where
  required r := by
    cases r with
    | region => exact value?_of_nonempty? h.region
    | bucket => exact value?_of_nonempty? h.bucket
    | logGroup => exact value?_of_nonempty? h.logGroup
    | stem => exact value?_of_nonempty? h.stem
    | destination => exact value?_of_nonempty? h.destination
  delay := comes_of_effective (toReal_of_time h.delay) rfl
  maxAttempts := comes_of_effective (toInteger_of_count h.maxAttempts) rfl
  maxDuration := comes_of_effective (toReal_of_time h.maxDuration) rfl
  recordBase := comes_of_effective (toInteger_of_count h.recordBase) rfl

/-- **Which source counts.** Two settings files whose sections on retries are
missing, null or mappings, and that agree on the entry of every tunable whose
variable is not set, come to the same settings or the same fault. Of settings
that are made, the required ones are the texts of their variables, and every
tunable comes from its variable, else from its entry, else it is the usual
one. -/
theorem sources_precedence [Bounds] (env : Environment) :
    (∀ file file' entries entries', file.entries? = some entries → file'.entries? = some entries' →
      PlainRetries entries → PlainRetries entries' →
      (∀ t : Tunable, env.value? t.variableName = none → given entries t = given entries' t) →
      ofSources env file = ofSources env file') ∧
    ∀ file entries s, file.entries? = some entries → ofSources env file = .ok s →
      Sourced env entries s := by
  constructor
  · intro file file' entries entries' hfile hfile' hplain hplain' hagree
    rw [ofSources_eq_ofValues hfile hplain, ofSources_eq_ofValues hfile' hplain',
      effective_congr hagree]
  · intro file entries s hfile hs
    exact (readFrom_of_ofSources hfile hs).sourced

end Settings

/-! ## An entry behind a variable

The number of attempts is set in the environment. One settings file has an
entry for it that no check would pass, the other has none. -/

namespace Settings.Overridden

local instance : Bounds := .usual

/-- The environment that sets the number of attempts. -/
def environment : Environment :=
  .ofList [("AWS_REGION", "us-east-1"), ("S3_BUCKET_NAME", "bucket"),
    ("CW_LOG_GROUP_NAME", "group"), ("LOG_PREFIX", "stem"), ("DESTINATION", "s3"),
    ("RETRY_MAX_ATTEMPTS", "5")]

/-- The sections of a file with these entries on retries. -/
def sectionsOf (retries : List (Value × Value)) : List (Value × Value) :=
  [(.ofString "retry", .mapping retries)]

/-- The entries on retries without a number of attempts. -/
def delayed : List (Value × Value) := [(.ofString "delay_seconds", .real 2.5)]

/-- The entries on retries with a number of attempts below zero. -/
def negative : List (Value × Value) := (.ofString "max_attempts", .int (-1)) :: delayed

/-- The settings that both files come to. -/
def settings : Settings :=
  ⟨"us-east-1", "bucket", "group", "stem", "s3", 10000000, ⟨2.5, 5, 0.0⟩⟩

theorem entry?_sectionsOf (retries : List (Value × Value)) :
    Value.entry? "retry" (sectionsOf retries) = some (.mapping retries) := by
  rw [sectionsOf, Value.entry?_cons, if_pos rfl]

theorem plainRetries_sectionsOf (retries : List (Value × Value)) :
    PlainRetries (sectionsOf retries) := by
  intro v hv
  obtain rfl := Option.some.inj ((entry?_sectionsOf retries).symm.trans hv)
  exact .inr ⟨retries, rfl⟩

/-- The entries of the tunables are those on retries. -/
theorem given_sectionsOf (retries : List (Value × Value)) (t : Tunable) :
    given (sectionsOf retries) t =
      if t = .recordBase then none else Value.entry? t.entryName retries := by
  by_cases ht : t = .recordBase
  · rw [given, if_pos ht, if_pos ht, ht, sectionsOf, Value.entry?_cons, if_neg (by decide)]
    rfl
  · rw [given, if_neg ht, if_neg ht, retryEntries, entry?_sectionsOf]
    rfl

theorem given_eq (t : Tunable) (h : environment.value? t.variableName = none) :
    given (sectionsOf negative) t = given (sectionsOf delayed) t := by
  have ht : ¬ "max_attempts" = t.entryName := by
    cases t with
    | maxAttempts => exact absurd h nofun
    | _ => decide
  rw [given_sectionsOf, given_sectionsOf, negative, Value.entry?_cons, if_neg ht]

theorem effective_delayed (t : Tunable) :
    effective environment (sectionsOf delayed) t =
      if t = .maxAttempts then .ofString "5" else if t = .delay then .real 2.5 else t.usual := by
  rw [effective_eq, given_sectionsOf, delayed, Value.entry?_cons]
  cases t with
  | maxAttempts => rfl
  | delay => rfl
  | maxDuration => rfl
  | recordBase => rfl

theorem ofSources_delayed :
    ofSources environment (.mapping (sectionsOf delayed)) = .ok settings := by
  rw [ofSources_eq_ofValues rfl (plainRetries_sectionsOf delayed), funext effective_delayed]
  rfl

/-- **The entry does not show**, and the number of attempts is that of the
variable. -/
theorem precedence_overridden :
    ofSources environment (.mapping (sectionsOf negative)) = .ok settings ∧
      Sourced environment (sectionsOf negative) settings := by
  have hsame : ofSources environment (.mapping (sectionsOf negative)) =
      ofSources environment (.mapping (sectionsOf delayed)) :=
    (sources_precedence environment).1 _ _ _ _ rfl rfl (plainRetries_sectionsOf negative)
      (plainRetries_sectionsOf delayed) given_eq
  have hsettings := hsame.trans ofSources_delayed
  exact ⟨hsettings, (sources_precedence environment).2 _ _ _ rfl hsettings⟩

end Settings.Overridden

end DeliveryAudit
