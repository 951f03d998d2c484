import DeliveryAudit.Proofs.Service.Entries
import DeliveryAudit.Proofs.Settings.Tunables
import DeliveryAudit.Proofs.Value.Quoting
/-!
# What becomes of an environment and a settings file

An environment and a mapping make settings that are in range
(`Settings.Sound`), or there is a complaint about one of them; only values
that the check of a tunable cannot handle come to neither
(`Settings.sound_or_defect`).
-/

namespace DeliveryAudit

namespace Settings

variable {env : Environment} {file v : Value} {entries : List (Value × Value)}
variable {s : Settings} {f : Fault} {t : Tunable}

/-- **Settings in range.** -/
structure Sound (s : Settings) : Prop where
  delay : s.budget.delay.isFinite = true ∧ 0.0 ≤ s.budget.delay
  maxDuration : s.budget.maxDuration.isFinite = true ∧ 0.0 ≤ s.budget.maxDuration
  maxAttempts : 0 ≤ s.budget.maxAttempts ∧ s.budget.maxAttempts.natAbs < Number.rangeLimit
  recordBase : 0 ≤ s.recordBase ∧ s.recordBase.natAbs < Number.rangeLimit
  destination : s.destination = "s3" ∨ s.destination = "cloudwatch"

theorem ReadFrom.sound (h : ReadFrom env entries s) : Sound s := by
  obtain ⟨kind, hkind⟩ := h.supported
  have hname : kind.name = s.destination := eq_of_beq
    (List.find?_some (p := fun k : DestinationKind => k.name == s.destination) hkind)
  refine ⟨Tunable.time_spec h.delay, Tunable.time_spec h.maxDuration,
    Tunable.count_spec h.maxAttempts, Tunable.count_spec h.recordBase, ?_⟩
  rw [← hname]
  cases kind with
  | bucket => exact .inl rfl
  | logStream => exact .inr rfl

theorem defect_of_require {r : Required} (h : some f = faultOf? (require env r)) :
    f = .defect (.missing r) := by
  unfold require at h
  cases hs : env.nonempty? r.variableName with
  | none =>
    rw [hs] at h
    exact Option.some.inj h
  | some s =>
    rw [hs] at h
    cases h

theorem defect_of_kindFault? (h : some f = kindFault? env) :
    ∃ destination, f = .defect (.unsupported destination) := by
  unfold kindFault? at h
  cases hs : env.nonempty? Required.destination.variableName with
  | none =>
    rw [hs] at h
    cases h
  | some destination =>
    rw [hs, Option.bind_some, kindOf] at h
    cases hkind : DestinationKind.ofName? destination with
    | none =>
      rw [hkind] at h
      exact ⟨destination, Option.some.inj h⟩
    | some kind =>
      rw [hkind] at h
      cases h

theorem defect_of_retrySection (h : some f = faultOf? (retrySection entries)) :
    f = .defect .retryShape := by
  simp only [retrySection] at h
  split at h
  · cases h
  · split at h
    · exact Option.some.inj h
    · cases h

variable [Bounds]

/-- **A value that the check of a tunable can handle.** -/
structure Manageable (t : Tunable) (v : Value) : Prop where
  /-- It is converted as no integer beyond the real numbers. -/
  inRange : ∀ n, Converts t v n → n.natAbs < Number.rangeLimit
  /-- It is not infinite where an integer is asked for. -/
  notInfinite : isCount t = true → ∀ x negative, v = .real x →
    Number.parts x ≠ .infinite negative
  /-- It can be written: its parts are not nested too deeply, and no integer
  in it is too long. -/
  notTooDeep : v.height ≤ Bounds.parts
  notTooLong : ∀ n ∈ v.integers, n.natAbs < 10 ^ Number.digitLimit

theorem Manageable.not_escapes (h : Manageable t v) : ¬ Escapes t v f := by
  rintro (⟨n, hn, hlarge⟩ | ⟨x, negative, ht, hv, hx⟩ | ⟨e, -, he⟩)
  · exact Nat.not_le.2 (h.inRange n hn) hlarge
  · exact h.notInfinite ht x negative hv hx
  · have hcause := Value.causes_of_quotedIn v he
    cases e with
    | tooLong =>
      obtain ⟨n, hn, hlong⟩ := hcause
      exact Nat.not_le.2 (h.notTooLong n hn) hlong
    | tooDeep => exact Nat.not_le.2 hcause h.notTooDeep

/-- **Integers in range** can be handled. -/
theorem manageable_int {n : Int} (hn : n.natAbs < Number.rangeLimit) : Manageable t (.int n) where
  inRange m hm := by
    unfold Converts at hm
    split at hm
    · cases hm
      exact hn
    · cases hm
      exact hn
  notInfinite _ x negative hx := nomatch hx
  notTooDeep := Nat.zero_le _
  notTooLong m hm := by
    obtain rfl := List.mem_singleton.1 hm
    exact Nat.lt_of_lt_of_le hn Number.rangeLimit_le_pow

/-- **Finite numbers** can be handled. -/
theorem manageable_real {x : Float} {negative : Bool} {mantissa : Nat} {exponent : Int}
    (hx : Number.parts x = .finite negative mantissa exponent) : Manageable t (.real x) where
  inRange m hm := by
    unfold Converts at hm
    split at hm
    · rw [Tunable.toInteger, hx] at hm
      cases hm
      exact Number.truncate_lt_rangeLimit hx
    · cases hm
  notInfinite _ y sign hy hinfinite := by
    cases hy
    rw [hx] at hinfinite
    cases hinfinite
  notTooDeep := Nat.zero_le _
  notTooLong m hm := nomatch hm

/-! ## Faults that are no defects -/

/-- **A fault that is no defect** is found by the check of a tunable. -/
theorem escapes_of_mem_checks (h : some f ∈ checks env entries) (hf : ∀ d, f ≠ .defect d) :
    ∃ t, Escapes t (effective env entries t) f := by
  simp only [checks, List.mem_cons, List.not_mem_nil, or_false] at h
  rcases h with h | h | h | h | h | h | h | h | h | h | h
  · exact absurd (defect_of_require h) (hf _)
  · exact absurd (defect_of_require h) (hf _)
  · exact absurd (defect_of_require h) (hf _)
  · exact absurd (defect_of_require h) (hf _)
  · exact absurd (defect_of_require h) (hf _)
  · obtain ⟨destination, hdefect⟩ := defect_of_kindFault? h
    exact absurd hdefect (hf _)
  · exact absurd (defect_of_retrySection h) (hf _)
  · exact ⟨.delay, escapes_iff.2 ⟨h.symm, hf⟩⟩
  · exact ⟨.maxAttempts, escapes_iff.2 ⟨h.symm, hf⟩⟩
  · exact ⟨.maxDuration, escapes_iff.2 ⟨h.symm, hf⟩⟩
  · exact ⟨.recordBase, escapes_iff.2 ⟨h.symm, hf⟩⟩

theorem tunableFault?_mem_checks (env : Environment) (entries : List (Value × Value))
    (t : Tunable) : tunableFault? t (effective env entries t) ∈ checks env entries := by
  cases t <;> simp [checks]

/-- What a check finds keeps settings from being made. -/
theorem ofSources_ne_ok_of_mem_checks (h : file.entries? = some entries)
    (hf : some f ∈ checks env entries) : ofSources env file ≠ .ok s := by
  intro hs
  -- A fault that is found first would be reported.
  have hnone : (checks env entries).findSome? id = none := by
    rw [Option.eq_none_iff_forall_ne_some]
    intro e he
    rw [(ofSources_eq_error_iff h).2 he] at hs
    cases hs
  exact absurd (List.findSome?_eq_none_iff.1 hnone _ hf) (Option.some_ne_none f)

/-- **Settings in range or a complaint.** An environment and a mapping make
settings only if all are in range. Otherwise there is a complaint, unless
the fault found first is that the check of a tunable cannot handle its
value. Where every check can handle its value, there are settings or a
complaint; where one cannot, there are no settings. -/
theorem sound_or_defect (env : Environment) (h : file.entries? = some entries) :
    (∀ s, ofSources env file = .ok s → Sound s) ∧
    (∀ f, ofSources env file = .error f →
      (∃ d, f = .defect d) ∨ ∃ t, Escapes t (effective env entries t) f) ∧
    ((∀ t, Manageable t (effective env entries t)) →
      (∃ s, ofSources env file = .ok s ∧ Sound s) ∨ ∃ d, ofSources env file = .error (.defect d)) ∧
    ∀ t f, Escapes t (effective env entries t) f → ∀ s, ofSources env file ≠ .ok s := by
  have hsound : ∀ s, ofSources env file = .ok s → Sound s := fun s hs =>
    (readFrom_of_ofSources h hs).sound
  have hfault : ∀ f, ofSources env file = .error f →
      (∃ d, f = .defect d) ∨ ∃ t, Escapes t (effective env entries t) f := by
    intro f hf
    obtain ⟨x, hx, hxf⟩ := List.exists_of_findSome?_eq_some ((ofSources_eq_error_iff h).1 hf)
    cases hxf
    by_cases hdefect : ∃ d, f = .defect d
    · exact .inl hdefect
    · exact .inr (escapes_of_mem_checks hx (not_exists.1 hdefect))
  refine ⟨hsound, hfault, fun hmanageable => ?_, fun t f hescapes s => ?_⟩
  · cases hresult : ofSources env file with
    | ok s => exact .inl ⟨s, rfl, hsound s hresult⟩
    | error f =>
      rcases hfault f hresult with ⟨d, rfl⟩ | ⟨t, hescapes⟩
      · exact .inr ⟨d, rfl⟩
      · exact absurd hescapes (hmanageable t).not_escapes
  · refine ofSources_ne_ok_of_mem_checks h (f := f) ?_
    rw [← (escapes_iff.1 hescapes).1]
    exact tunableFault?_mem_checks env entries t

end Settings

/-! ## Attempts

The settings file sets the number of attempts, to an integer and to
infinity. -/

namespace Settings.Attempts

local instance : Bounds := .usual

/-- An environment with all required settings. -/
def environment : Environment :=
  .ofList [("AWS_REGION", "us-east-1"), ("S3_BUCKET_NAME", "bucket"),
    ("CW_LOG_GROUP_NAME", "group"), ("LOG_PREFIX", "stem"), ("DESTINATION", "s3")]

/-- A settings file that sets the number of attempts. -/
def settingsFile (attempts : Value) : Value :=
  .mapping [(.ofString "retry", .mapping [(.ofString "max_attempts", attempts)])]

/-- The section on retries in this file. -/
def retries (attempts : Value) : List (Value × Value) :=
  [(.ofString "max_attempts", attempts)]

/-- The sections of this file. -/
def sectionsOf (attempts : Value) : List (Value × Value) :=
  [(.ofString "retry", .mapping (retries attempts))]

theorem retrySection_sectionsOf (attempts : Value) :
    retrySection (sectionsOf attempts) = .ok (retries attempts) := by
  simp only [retrySection, sectionsOf, Value.entry?_cons, if_true]
  rfl

/-- No tunable is set in the environment. -/
theorem source_environment (t : Tunable) (entries : List (Value × Value)) :
    source environment t entries = (Value.entry? t.entryName entries).getD t.usual := by
  have hunset : environment.value? t.variableName = none := by
    cases t with
    | delay => rfl
    | maxAttempts => rfl
    | maxDuration => rfl
    | recordBase => rfl
  rw [source, hunset]

/-- Only the number of attempts is set in the file. -/
theorem source_retries (attempts : Value) (t : Tunable) (ht : t ≠ .recordBase) :
    source environment t (retries attempts) = if t = .maxAttempts then attempts else t.usual := by
  rw [source_environment, retries, Value.entry?_cons]
  cases t with
  | delay => rw [if_neg (by decide), if_neg nofun]; rfl
  | maxAttempts => rw [if_pos (by decide), if_pos rfl]; rfl
  | maxDuration => rw [if_neg (by decide), if_neg nofun]; rfl
  | recordBase => exact absurd rfl ht

theorem source_sectionsOf (attempts : Value) :
    source environment .recordBase (sectionsOf attempts) = Tunable.usual .recordBase := by
  rw [source_environment, sectionsOf, Value.entry?_cons, if_neg (by decide)]
  rfl

theorem effective_sectionsOf (attempts : Value) (t : Tunable) :
    effective environment (sectionsOf attempts) t =
      if t = .maxAttempts then attempts else t.usual := by
  by_cases ht : t = .recordBase
  · rw [effective, if_pos ht, ht, source_sectionsOf, if_neg nofun]
  · rw [effective, if_neg ht, ← eq_retryEntries (retrySection_sectionsOf attempts),
      source_retries attempts t ht]

/-- The settings with this number of attempts. -/
def settings (attempts : Int) : Settings :=
  ⟨"us-east-1", "bucket", "group", "stem", "s3", 10000000, ⟨1.0, attempts, 0.0⟩⟩

/-- What the file comes to is decided by the check of the attempts. -/
theorem ofSources_settingsFile (attempts : Value) :
    ofSources environment (settingsFile attempts) =
      (tune Tunable.count .maxAttempts attempts).map settings := by
  have hchecks : ofSources environment (settingsFile attempts) = do
      let retries ← retrySection (sectionsOf attempts)
      let delay ← tune Tunable.time .delay (source environment .delay retries)
      let maxAttempts ← tune Tunable.count .maxAttempts (source environment .maxAttempts retries)
      let maxDuration ← tune Tunable.time .maxDuration (source environment .maxDuration retries)
      let recordBase ← tune Tunable.count .recordBase
        (source environment .recordBase (sectionsOf attempts))
      return ⟨"us-east-1", "bucket", "group", "stem", "s3", recordBase,
        ⟨delay, maxAttempts, maxDuration⟩⟩ := rfl
  have hdelay : tune Tunable.time .delay (source environment .delay (retries attempts)) =
      .ok 1.0 := by
    rw [source_retries attempts .delay nofun, if_neg nofun]
    rfl
  have hduration :
      tune Tunable.time .maxDuration (source environment .maxDuration (retries attempts)) =
        .ok 0.0 := by
    rw [source_retries attempts .maxDuration nofun, if_neg nofun]
    rfl
  have hattempts : source environment .maxAttempts (retries attempts) = attempts := by
    rw [source_retries attempts .maxAttempts nofun, if_pos rfl]
  have hbase :
      tune Tunable.count .recordBase (source environment .recordBase (sectionsOf attempts)) =
        .ok 10000000 := by
    rw [source_sectionsOf]
    rfl
  rw [hchecks, retrySection_sectionsOf]
  change (tune Tunable.time .delay (source environment .delay (retries attempts)) >>= _) = _
  rw [hdelay, hduration, hattempts, hbase]
  cases tune Tunable.count .maxAttempts attempts with
  | error f => rfl
  | ok n => rfl

/-- Three attempts are settings in range, and every value can be
handled. -/
theorem sound_attempts : ∃ s, ofSources environment (settingsFile (.int 3)) = .ok s ∧
    Sound s ∧ s.budget.maxAttempts = 3 ∧
    ∀ t, Manageable t (effective environment (sectionsOf (.int 3)) t) := by
  have hentries : (settingsFile (.int 3)).entries? = some (sectionsOf (.int 3)) := rfl
  have hok : ofSources environment (settingsFile (.int 3)) = .ok (settings 3) := by
    rw [ofSources_settingsFile]
    rfl
  refine ⟨settings 3, hok, (sound_or_defect environment hentries).1 _ hok, rfl, fun t => ?_⟩
  have hsmall : ∀ n : Int, n.natAbs.log2 < 1023 → n.natAbs < Number.rangeLimit := fun n =>
    Number.lt_middle
  rw [effective_sectionsOf]
  cases t with
  | delay => exact manageable_real (rfl : Number.parts 1.0 = .finite false Number.hiddenBit (-52))
  | maxAttempts => exact manageable_int (hsmall _ (by decide))
  | maxDuration => exact manageable_real (rfl : Number.parts 0.0 = .finite false 0 (-1074))
  | recordBase => exact manageable_int (hsmall _ (by decide))

/-- Infinity is neither accepted nor complained of. -/
theorem infinite_escapes :
    let infinity := Value.real (Number.ofBits false Number.infinityBits)
    (∃ entries, (settingsFile infinity).entries? = some entries) ∧
    ofSources environment (settingsFile infinity) = .error .infinite ∧
    (∀ s, ofSources environment (settingsFile infinity) ≠ .ok s) ∧
    ∀ d, ofSources environment (settingsFile infinity) ≠ .error (.defect d) := by
  intro infinity
  have hresult : ofSources environment (settingsFile infinity) = .error .infinite := by
    rw [ofSources_settingsFile]
    rfl
  refine ⟨⟨_, rfl⟩, hresult, fun s => ?_, fun d => ?_⟩
  · rw [hresult]
    nofun
  · rw [hresult]
    nofun

end Settings.Attempts

end DeliveryAudit
