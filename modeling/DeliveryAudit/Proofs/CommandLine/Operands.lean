import DeliveryAudit.CommandLine.Arguments
/-!
# The operands of a command line

Of the words that are operands, the one after the option for a settings
file belongs to it, and the others are the operands of the command line
(`operands`). Arguments come from a command line with just two of them:
the number of records and the delay of the log (`operands_of_ofWords`).
`Reads` says how many have been taken; one operand keeps it
(`Partial.reads_operand`), and so all words do, by induction along the
words (`Partial.reads_take`).
-/

namespace DeliveryAudit

/-- A word is given as it is, unless it is the divider. -/
theorem Given.ofWord_cases (beside : Bool) (word : String) :
    ofWord beside word = text word ∨ word = Role.dividerWord ∧ ofWord beside word = nothing := by
  unfold ofWord
  split
  · rename_i h
    exact .inr ⟨h.1, rfl⟩
  · exact .inl rfl

namespace Arguments

theorem integer_of_recordCount {word : String} {n : { n : Int // 0 < n }}
    (h : recordCount word = .ok n) : Number.integer 10 (Text.ofString word) = .ok n.val := by
  unfold recordCount at h
  split at h
  · cases h
  · rename_i m hm
    split at h
    · cases h
      exact hm
    · cases h

/-- The operands among words with their roles. -/
def operands : List (String × Role) → List String
  | [] => []
  | (_, .option .config) :: (_, .operand) :: ws => operands ws
  | (w, r) :: ws => if r = .operand then w :: operands ws else operands ws

theorem operands_operand (w : String) (ws : List (String × Role)) :
    operands ((w, .operand) :: ws) = w :: operands ws := by
  rw [operands, if_pos rfl]
  exact fun _ _ _ h => by cases h

/-- A word has no part in the operands, unless it is one or the option for
a settings file. -/
theorem operands_of_ne (r : Role) (hoperand : r ≠ .operand) (hconfig : r ≠ .option .config)
    (w : String) (ws : List (String × Role)) : operands ((w, r) :: ws) = operands ws := by
  rw [operands, if_neg hoperand]
  exact fun _ _ _ h => absurd h hconfig

/-- **What has been taken of these operands**, where every word has been
understood. -/
inductive Reads : Option { n : Int // 0 < n } → Option Given → List String → Prop
  | none : Reads none none []
  | count {n : { n : Int // 0 < n }} {count : String} :
      recordCount count = .ok n → Reads (some n) .none [count]
  | both {n : { n : Int // 0 < n }} {count delay : String} (beside : Bool) :
      recordCount count = .ok n → delay ≠ "" →
      Reads (some n) (some (.ofWord beside delay)) [count, delay]

namespace Partial

variable {w : String} {beside : Bool} {os : List String} {ws : List (String × Role)}
variable {p q : Partial}

/-- What is not understood stays so. -/
theorem unknown_operand (h : p.operand beside w = .ok q) : p.unknown <:+ q.unknown := by
  unfold Partial.operand at h
  split at h
  · cases hcount : recordCount w with
    | error f => rw [hcount] at h; cases h
    | ok n => rw [hcount] at h; cases h; exact List.suffix_rfl
  · split at h
    · cases h
    · cases h; exact List.suffix_rfl
  · cases h
    exact List.suffix_cons _ _

/-- An operand that is taken, and the words after it. -/
theorem of_bind_take (h : (p.operand beside w >>= fun p => p.take ws) = .ok q) :
    ∃ p', p.operand beside w = .ok p' ∧ p'.take ws = .ok q := by
  cases hoperand : p.operand beside w with
  | error f => rw [hoperand] at h; cases h
  | ok p' => exact ⟨p', rfl, by rw [hoperand] at h; exact h⟩

theorem unknown_take (h : p.take ws = .ok q) : p.unknown <:+ q.unknown := by
  fun_induction Partial.take p ws with
  | case1 p => cases h; exact List.suffix_rfl
  | case2 p d w ws _ ih =>
    obtain ⟨p', hp', hrest⟩ := of_bind_take h
    exact (unknown_operand hp').trans (ih p' hrest)
  | case3 p d w ws _ ih =>
    obtain ⟨p', hp', hrest⟩ := of_bind_take h
    exact (List.suffix_cons _ _).trans ((unknown_operand hp').trans (ih p' hrest))
  | case4 p w d ws _ ih =>
    obtain ⟨p', hp', hrest⟩ := of_bind_take h
    exact (unknown_operand hp').trans (ih p' hrest)
  | case5 p w d ws _ ih => exact ((List.suffix_cons _ _).trans (List.suffix_cons _ _)).trans (ih h)
  | case6 p w ws _ ih =>
    obtain ⟨p', hp', hrest⟩ := of_bind_take h
    exact (unknown_operand hp').trans (ih p' hrest)
  | case7 => cases h
  | case8 _ _ _ ih => exact ih h
  | case9 _ _ _ _ ih => exact ih h
  | case10 => cases h
  | case11 _ _ _ _ _ ih => exact ih h
  | case12 => cases h
  | case13 _ _ _ _ ih => exact (List.suffix_cons _ _).trans (ih h)
  | case14 _ _ _ ih => exact (List.suffix_cons _ _).trans (ih h)

/-- **An operand that is understood** is the next one. -/
theorem reads_operand (hp : Reads p.totalRecords p.logDelay os)
    (h : p.operand beside w = .ok q) (hknown : q.unknown = []) :
    Reads q.totalRecords q.logDelay (os ++ [w]) := by
  obtain ⟨totalRecords, logDelay, config, verbose, unknown⟩ := p
  change Reads totalRecords logDelay os at hp
  cases hp with
  | none =>
    rw [Partial.operand] at h
    cases hcount : recordCount w with
    | error f => rw [hcount] at h; cases h
    | ok n =>
      rw [hcount] at h
      cases h
      exact .count hcount
  | count hcount =>
    rw [Partial.operand] at h
    by_cases hw : w = ""
    · rw [if_pos (by rw [hw]; rfl)] at h
      cases h
    · rw [if_neg (by simpa using hw)] at h
      cases h
      exact .both beside hcount hw
  | both beside' hcount hdelay =>
    rw [Partial.operand] at h
    cases h
    cases hknown

/-- **What is taken from words** are their operands, one after another. -/
theorem reads_take (hp : Reads p.totalRecords p.logDelay os) (h : p.take ws = .ok q)
    (hknown : q.unknown = []) : Reads q.totalRecords q.logDelay (os ++ operands ws) := by
  have hoperand : ∀ {p p' : Partial} {os : List String} {w : String} {beside : Bool}
      {ws : List (String × Role)}, Reads p.totalRecords p.logDelay os →
      p.operand beside w = .ok p' → p'.take ws = .ok q →
      Reads p'.totalRecords p'.logDelay (os ++ [w]) := by
    intro p p' os w beside ws hp hp' hrest
    refine reads_operand hp hp' (List.suffix_nil.1 ?_)
    rw [← hknown]
    exact unknown_take hrest
  fun_induction Partial.take p ws generalizing os with
  | case1 p => cases h; rwa [operands, List.append_nil]
  | case2 p d w ws _ ih =>
    obtain ⟨p', hp', hrest⟩ := of_bind_take h
    rw [operands_of_ne .divider nofun nofun, operands_operand, List.append_cons]
    exact ih p' (hoperand hp hp' hrest) hrest
  | case3 p d w ws _ ih =>
    obtain ⟨p', hp', hrest⟩ := of_bind_take h
    have hunknown := (unknown_operand hp').trans (unknown_take hrest)
    exact absurd hknown (hunknown.ne_nil (List.cons_ne_nil _ _))
  | case4 p w d ws _ ih =>
    obtain ⟨p', hp', hrest⟩ := of_bind_take h
    rw [operands_operand, operands_of_ne .divider nofun nofun, List.append_cons]
    exact ih p' (hoperand hp hp' hrest) hrest
  | case5 => exact absurd hknown ((unknown_take h).ne_nil (List.cons_ne_nil _ _))
  | case6 p w ws _ ih =>
    obtain ⟨p', hp', hrest⟩ := of_bind_take h
    rw [operands_operand, List.append_cons]
    exact ih p' (hoperand hp hp' hrest) hrest
  | case7 => cases h
  | case8 _ _ _ ih => rw [operands_of_ne (.option .verbose) nofun nofun]; exact ih hp h
  | case9 _ _ _ _ ih => rw [operands]; exact ih hp h
  | case10 => cases h
  | case11 _ _ o text _ ih => rw [operands_of_ne (.attached o text) nofun nofun]; exact ih hp h
  | case12 => cases h
  | case13 => exact absurd hknown ((unknown_take h).ne_nil (List.cons_ne_nil _ _))
  | case14 => exact absurd hknown ((unknown_take h).ne_nil (List.cons_ne_nil _ _))

end Partial

/-- **Arguments are read off two operands**: the number of records, and the
delay of the log, which is shown as it is given. Only a delay that is the
divider itself may be lost. -/
theorem operands_of_ofWords {words : List String} {a : Arguments} (h : ofWords words = .ok a) :
    ∃ ws count delay, Role.ofWords words = .ok ws ∧ operands ws = [count, delay] ∧
      Number.integer 10 (Text.ofString count) = .ok a.totalRecords ∧ delay ≠ "" ∧
      (a.logDelay = .text delay ∨ delay = Role.dividerWord ∧ a.logDelay = .nothing) := by
  unfold ofWords at h
  split at h
  · cases h
  · rename_i ws hroles
    split at h
    · cases h
    · rename_i p htake
      unfold Partial.finish at h
      split at h
      · rename_i n g htotal hdelay
        split at h
        · rename_i hknown
          have hreads := Partial.reads_take (p := .empty) .none htake (List.isEmpty_iff.1 hknown)
          rw [htotal, hdelay] at hreads
          cases h
          generalize hoperands : [] ++ operands ws = os at hreads
          cases hreads with
          | @both _ count delay beside hcount hne =>
            exact ⟨ws, count, delay, hroles, hoperands, integer_of_recordCount hcount, hne,
              Given.ofWord_cases beside delay⟩
        · cases h
      · cases h

end Arguments

end DeliveryAudit
