import DeliveryAudit.Proofs.Number.Truncation
import DeliveryAudit.Proofs.Settings.Precedence
import DeliveryAudit.Proofs.Settings.Totality
/-!
# Counts that are no integers

A count may be given as any number. It is cut off at the point before it is
checked, so that a number between minus one and zero is not complained of, and
one between minus one and one counts as zero, which for the attempts is no
limit at all. In a configuration without other faults (`Settings.ValidBut`) a
count is kept or complained of just if it is an integer or at most minus one
(`Settings.count_truncated`).
-/

namespace DeliveryAudit

namespace Settings

variable {env : Environment} {file v : Value} {entries : List (Value × Value)}
variable {f : Fault} {t : Tunable} {q : ℚ}

/-! ## Numbers -/

/-- **The finite numbers** of a size that a real number can have. -/
inductive Denotes : Value → ℚ → Prop
  | int {n : ℤ} : n.natAbs < Number.rangeLimit → Denotes (.int n) n
  | real {x : Float} {negative : Bool} {mantissa : ℕ} {exponent : ℤ} :
      Number.parts x = .finite negative mantissa exponent →
      Denotes (.real x) (Number.valueOf negative mantissa exponent)

/-- **A number is cut off at the point** where an integer is asked for. -/
theorem Denotes.toInteger_eq (h : Denotes v q) :
    Tunable.toInteger v = .ok (Number.truncated q) ∧
      (Number.truncated q).natAbs < Number.rangeLimit := by
  cases h with
  | int hn =>
    rw [Number.truncated_intCast]
    exact ⟨rfl, hn⟩
  | real hx =>
    rw [← Number.truncate_eq]
    exact ⟨by rw [Tunable.toInteger, hx], Number.truncate_lt_rangeLimit hx⟩

/-- **The check of a count** sees what is before the point. -/
theorem Denotes.count_eq (h : Denotes v q) :
    Tunable.count v =
      if q ≤ -1 then .error (.objection .negative) else .ok (Number.truncated q) := by
  obtain ⟨hinteger, hrange⟩ := h.toInteger_eq
  obtain ⟨x, hx⟩ := Option.ne_none_iff_exists'.1
    (mt (Number.ofInt?_eq_none_iff _).1 (Nat.not_le.2 hrange))
  simp only [Tunable.count, hinteger, hx, Number.truncated_lt_zero_iff]

variable [Bounds]

/-- Numbers can be written. -/
theorem Denotes.exists_quoted? (h : Denotes v q) : ∃ s, v.quoted? = .ok s := by
  cases h with
  | int hn =>
    refine Tunable.quoted?_of_not_hasParts rfl fun n hv => ?_
    cases hv
    exact hn
  | real _ => exact Tunable.quoted?_of_not_hasParts rfl nofun

/-! ## Configurations with one fault at most -/

/-- **A configuration without faults**, the value of this tunable apart. -/
structure ValidBut (env : Environment) (entries : List (Value × Value)) (t : Tunable) : Prop where
  required : ∀ r, ∃ s, require env r = .ok s
  supported : kindFault? env = none
  retries : ∃ retries, retrySection entries = .ok retries
  others : ∀ t', t' ≠ t → tunableFault? t' (effective env entries t') = none

omit [Bounds] in
/-- Where only one check may find anything, it decides. -/
theorem findSome?_of_forall {found : List (Option Fault)} {x : Option Fault} (hx : x ∈ found)
    (h : ∀ y ∈ found, y = none ∨ y = x) : found.findSome? id = x := by
  induction found with
  | nil => exact absurd hx List.not_mem_nil
  | cons y found ih =>
    rw [List.findSome?_cons]
    cases y with
    | some f =>
      obtain hy | hy := h (some f) List.mem_cons_self
      · cases hy
      · exact hy
    | none =>
      cases hx with
      | head =>
        exact List.findSome?_eq_none_iff.2 fun y hy => (h y (List.mem_cons_of_mem _ hy)).elim id id
      | tail _ hx => exact ih hx fun y hy => h y (List.mem_cons_of_mem _ hy)

/-- **The check of this tunable decides.** -/
theorem ValidBut.ofSources_eq_error_iff (h : ValidBut env entries t)
    (hfile : file.entries? = some entries) :
    ofSources env file = .error f ↔ tunableFault? t (effective env entries t) = some f := by
  have hrequired : ∀ r, faultOf? (require env r) = none := fun r => by
    obtain ⟨s, hs⟩ := h.required r
    rw [hs]
    rfl
  have hretries : faultOf? (retrySection entries) = none := by
    obtain ⟨retries, hretries⟩ := h.retries
    rw [hretries]
    rfl
  have htunable : ∀ t', tunableFault? t' (effective env entries t') = none ∨
      tunableFault? t' (effective env entries t') = tunableFault? t (effective env entries t) := by
    intro t'
    by_cases ht : t' = t
    · exact .inr (by rw [ht])
    · exact .inl (h.others t' ht)
  rw [Settings.ofSources_eq_error_iff hfile,
    findSome?_of_forall (tunableFault?_mem_checks env entries t) fun y hy => ?_]
  simp only [checks, List.mem_cons, List.not_mem_nil, or_false] at hy
  rcases hy with rfl | rfl | rfl | rfl | rfl | rfl | rfl | rfl | rfl | rfl | rfl
  · exact .inl (hrequired _)
  · exact .inl (hrequired _)
  · exact .inl (hrequired _)
  · exact .inl (hrequired _)
  · exact .inl (hrequired _)
  · exact .inl h.supported
  · exact .inl hretries
  · exact htunable .delay
  · exact htunable .maxAttempts
  · exact htunable .maxDuration
  · exact htunable .recordBase

/-- A setting that is a count. -/
def countOf (s : Settings) : Tunable → ℤ
  | .recordBase => s.recordBase
  | _ => s.budget.maxAttempts

/-- **A number is kept or complained of.** Below zero there is a complaint;
from zero on there is one, or settings with the number. -/
def Kept (env : Environment) (file : Value) (t : Tunable) (q : ℚ) : Prop :=
  (q < 0 → ∃ d, ofSources env file = .error (.defect d)) ∧
    (0 ≤ q → (∃ d, ofSources env file = .error (.defect d)) ∨
      ∃ s, ofSources env file = .ok s ∧ (s.countOf t : ℚ) = q)

/-- A count that is given in the settings file is decided by its check. -/
theorem ValidBut.ofSources_count (h : ValidBut env entries t) (ht : isCount t = true)
    (hfile : file.entries? = some entries) (hunset : env.value? t.variableName = none)
    (hgiven : given entries t = some v) :
    (∀ f, tune Tunable.count t v = .error f → ofSources env file = .error f) ∧
      ∀ n, Tunable.count v = .ok n → ∃ s, ofSources env file = .ok s ∧ s.countOf t = n := by
  have heffective : effective env entries t = v := by
    rw [effective_eq, hunset, hgiven]
    rfl
  have hfault : tunableFault? t v = faultOf? (tune Tunable.count t v) := by
    rw [tunableFault?_eq, if_pos ht]
  have herror : ∀ f, ofSources env file = .error f ↔ faultOf? (tune Tunable.count t v) = some f :=
    fun f => by rw [h.ofSources_eq_error_iff hfile, heffective, hfault]
  refine ⟨fun f hf => (herror f).2 (by rw [hf]; rfl), fun n hn => ?_⟩
  have htune : tune Tunable.count t v = .ok n := by rw [tune, hn]
  cases hresult : ofSources env file with
  | error f =>
    have hf := (herror f).1 hresult
    rw [htune] at hf
    cases hf
  | ok s =>
    refine ⟨s, rfl, ?_⟩
    have hread := readFrom_of_ofSources hfile hresult
    cases t with
    | delay => cases ht
    | maxDuration => cases ht
    | maxAttempts =>
      have hcount := hread.maxAttempts
      rw [heffective, hn] at hcount
      exact (Except.ok.inj hcount).symm
    | recordBase =>
      have hcount := hread.recordBase
      rw [heffective, hn] at hcount
      exact (Except.ok.inj hcount).symm

/-- **Counts are cut off at the point.** In a configuration without other
faults, a finite number that is given in the settings file as a count is
complained of as negative if it is at most minus one, and otherwise makes
settings with what is before its point. So it is kept or complained of just if
it is at most minus one or an integer, and counts as zero just if it lies
between minus one and one. -/
theorem count_truncated (ht : isCount t = true) (hfile : file.entries? = some entries)
    (hvalid : ValidBut env entries t) (hunset : env.value? t.variableName = none)
    (hgiven : given entries t = some v) (hv : Denotes v q) :
    (q ≤ -1 → ofSources env file = .error (.defect (.tunable t .negative v))) ∧
    (-1 < q → ∃ s, ofSources env file = .ok s ∧ s.countOf t = Number.truncated q) ∧
    (Kept env file t q ↔ q ≤ -1 ∨ ∃ n : ℕ, q = n) ∧
    ((∃ s, ofSources env file = .ok s ∧ s.countOf t = 0) ↔ -1 < q ∧ q < 1) := by
  obtain ⟨herror, hok⟩ := hvalid.ofSources_count ht hfile hunset hgiven
  have hnegative : q ≤ -1 → ofSources env file = .error (.defect (.tunable t .negative v)) := by
    intro hq
    obtain ⟨text, htext⟩ := hv.exists_quoted?
    refine herror _ ?_
    rw [tune, hv.count_eq, if_pos hq]
    simp only [refused, htext]
  have hsettings : -1 < q →
      ∃ s, ofSources env file = .ok s ∧ s.countOf t = Number.truncated q := fun hq =>
    hok _ (by rw [hv.count_eq, if_neg (not_le.2 hq)])
  refine ⟨hnegative, hsettings, ⟨fun hkept => ?_, fun hq => ⟨fun hneg => ?_, fun hnonneg => ?_⟩⟩,
    fun hzero => ?_, fun hq => ?_⟩
  · refine (le_or_gt q (-1)).imp_right fun hq => ?_
    obtain ⟨s, hs, hcount⟩ := hsettings hq
    have hno : ¬ ∃ d, ofSources env file = .error (.defect d) := by
      rintro ⟨d, hd⟩
      cases hs.symm.trans hd
    have hnonneg : 0 ≤ q := le_of_not_gt fun hneg => hno (hkept.1 hneg)
    obtain ⟨s', hs', hsame⟩ := (hkept.2 hnonneg).resolve_left hno
    obtain rfl := Except.ok.inj (hs.symm.trans hs')
    rw [hcount] at hsame
    obtain ⟨n, rfl⟩ := Number.truncated_eq_iff.1 hsame
    lift n to ℕ using Int.cast_nonneg_iff.1 hnonneg
    exact ⟨n, Int.cast_natCast n⟩
  · rcases hq with hq | ⟨n, rfl⟩
    · exact ⟨_, hnegative hq⟩
    · exact absurd hneg (not_lt.2 n.cast_nonneg)
  · rcases hq with hq | ⟨n, rfl⟩
    · linarith
    · obtain ⟨s, hs, hcount⟩ := hsettings (by linarith)
      refine .inr ⟨s, hs, ?_⟩
      rw [hcount, Number.truncated_eq_iff]
      exact ⟨n, (Int.cast_natCast n).symm⟩
  · obtain ⟨s, hs, hzero⟩ := hzero
    have hq : -1 < q := lt_of_not_ge fun hq => by cases hs.symm.trans (hnegative hq)
    obtain ⟨s', hs', hcount⟩ := hsettings hq
    obtain rfl := Except.ok.inj (hs.symm.trans hs')
    exact Number.truncated_eq_zero_iff.1 (hcount.symm.trans hzero)
  · obtain ⟨s, hs, hcount⟩ := hsettings hq.1
    exact ⟨s, hs, hcount.trans (Number.truncated_eq_zero_iff.2 hq)⟩

end Settings

/-! ## Half an attempt

The settings file sets the number of attempts to minus a half, to two and a
half, and to minus two. -/

namespace Settings.Attempts

local instance : Bounds := .usual

/-- Minus a half. -/
def minusHalf : Value := .real (-0.5)

theorem denotes_minusHalf : Denotes minusHalf (-1 / 2) := by
  have hparts : Number.parts (-0.5) = .finite true Number.hiddenBit (-53) := rfl
  have hvalue : Number.valueOf true Number.hiddenBit (-53) = -1 / 2 := by
    norm_num [Number.valueOf, Number.hiddenBit]
  exact hvalue ▸ .real hparts

theorem given_sectionsOf_attempts (attempts : Value) :
    given (sectionsOf attempts) .maxAttempts = some attempts := by
  rw [given, if_neg (by decide), ← eq_retryEntries (retrySection_sectionsOf attempts), retries,
    Value.entry?_cons, if_pos (by decide)]

theorem validBut_sectionsOf (attempts : Value) :
    ValidBut environment (sectionsOf attempts) .maxAttempts where
  required r := by
    cases r with
    | region => exact ⟨_, rfl⟩
    | bucket => exact ⟨_, rfl⟩
    | logGroup => exact ⟨_, rfl⟩
    | stem => exact ⟨_, rfl⟩
    | destination => exact ⟨_, rfl⟩
  supported := rfl
  retries := ⟨_, retrySection_sectionsOf attempts⟩
  others t ht := by
    rw [effective_sectionsOf, if_neg ht]
    cases t with
    | maxAttempts => exact absurd rfl ht
    | delay => rfl
    | maxDuration => rfl
    | recordBase => rfl

/-- **Minus a half is accepted** as no attempts, which is no limit. -/
theorem minusHalf_vanishes :
    Denotes minusHalf (-1 / 2) ∧ ValidBut environment (sectionsOf minusHalf) .maxAttempts ∧
    environment.value? Tunable.maxAttempts.variableName = none ∧
    given (sectionsOf minusHalf) .maxAttempts = some minusHalf ∧
    ofSources environment (settingsFile minusHalf) = .ok (settings 0) ∧
    ¬ Kept environment (settingsFile minusHalf) .maxAttempts (-1 / 2) := by
  have hok : ofSources environment (settingsFile minusHalf) = .ok (settings 0) := by
    rw [ofSources_settingsFile]
    rfl
  refine ⟨denotes_minusHalf, validBut_sectionsOf _, rfl, given_sectionsOf_attempts _, hok,
    fun hkept => ?_⟩
  obtain ⟨d, hd⟩ := hkept.1 (by norm_num)
  rw [hok] at hd
  cases hd

/-- Two and a half attempts are two, and minus two are complained of. -/
theorem count_truncated_attempts :
    (∃ s, ofSources environment (settingsFile (.real 2.5)) = .ok s ∧ s.budget.maxAttempts = 2) ∧
    ¬ Kept environment (settingsFile (.real 2.5)) .maxAttempts (5 / 2) ∧
    ofSources environment (settingsFile (.int (-2))) =
      .error (.defect (.tunable .maxAttempts .negative (.int (-2)))) := by
  have hparts : Number.parts 2.5 = .finite false (5 * 2 ^ 50) (-51) := rfl
  have hvalue : Number.valueOf false (5 * 2 ^ 50) (-51) = 5 / 2 := by
    norm_num [Number.valueOf]
  have hdenotes : Denotes (.real 2.5) (5 / 2) := hvalue ▸ .real hparts
  have htwo : Denotes (.int (-2)) (-2 : ℤ) := .int (Number.lt_middle (by decide))
  have hfile : ∀ attempts, (settingsFile attempts).entries? = some (sectionsOf attempts) :=
    fun _ => rfl
  obtain ⟨-, hsettings, hkept, -⟩ := count_truncated rfl (hfile _) (validBut_sectionsOf _) rfl
    (given_sectionsOf_attempts _) hdenotes
  obtain ⟨hnegative, -, -, -⟩ := count_truncated rfl (hfile _) (validBut_sectionsOf _) rfl
    (given_sectionsOf_attempts _) htwo
  obtain ⟨s, hs, hcount⟩ := hsettings (by norm_num)
  have hfloor : Number.truncated (5 / 2) = 2 := by
    rw [Number.truncated, if_pos (by norm_num), Int.floor_eq_iff]
    norm_num
  refine ⟨⟨s, hs, hcount.trans hfloor⟩, fun h => ?_, hnegative (by norm_num)⟩
  rcases hkept.1 h with hle | ⟨n, hn⟩
  · norm_num at hle
  · have htwice : 5 = 2 * n := by
      have hcast : (5 : ℚ) = 2 * n := by linarith
      exact_mod_cast hcast
    omega

end Settings.Attempts

end DeliveryAudit
