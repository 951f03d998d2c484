import DeliveryAudit.Proofs.CommandLine.Reporting
/-!
# Audits that a fault ends

When nothing fails before the audit of a run (`Run.Prepared`), the fault of
the audit ends the program: it is told of if it is a failure of what is
checked (`Program.tells_of_isFailure`), and escapes if it is none
(`Program.ending_of_not_isFailure`).
-/

namespace DeliveryAudit

/-- **A run up to its audit**: its settings have been read, and a roster and
a reader have been made. -/
structure Run.Prepared [Bounds] (o : RunOrder) (host : Host) where
  file : SettingsFile
  settings : Settings
  roster : Roster
  reader : Reader
  read : SettingsFile.read host.opener o.settingsPath = .ok file
  set : Settings.ofSources host.environment (.mapping file.entries) = .ok settings
  ranged : Roster.ofRange o.totalRecords settings.recordBase = .ok roster
  made : settings.reader host.makeClient = .ok reader

/-- The audit that is prepared. -/
def Run.Prepared.audit [Bounds] {o : RunOrder} {host : Host} (q : Prepared o host) : Audit :=
  Audit.run q.reader q.roster

theorem Run.Prepared.outcome_of_fault [Bounds] {o : RunOrder} {host : Host} {f : AuditFault}
    (q : Prepared o host) (hf : q.audit.fault = some f) :
    (ofOrder o host).outcome = .error (.audit f) := by
  rw [Prepared.audit] at hf
  rw [outcome_of_parts q.read q.set q.ranged q.made, outcomeOf, hf]

/-- A traversal that a fault ends is audited up to the fault, unless one of
its lines ends the audit before. -/
theorem Run.Prepared.fault_of_traverse [Bounds] {o : RunOrder} {host : Host} {f : TraversalFault}
    (q : Prepared o host) (hf : q.reader.traverse.fault = some f) :
    (∃ g, q.audit.fault = some (.tally g)) ∨ q.audit.fault = some (.traversal f) := by
  have hended := (Audit.ofTraversal_eq q.reader.destination.enveloped q.reader.traverse q.roster).2
  rw [hf] at hended
  cases hcounted : (Audit.count q.reader.destination.enveloped q.reader.traverse.lines
      (Tally.start q.roster)).2 with
  | some g =>
    rw [hcounted] at hended
    exact .inl ⟨g, hended⟩
  | none =>
    rw [hcounted] at hended
    exact .inr hended

namespace Program

variable [Bounds]

/-- **A failure is told of**: nothing is printed, the wording of the failure
is the last that is written, and the program returns 1. -/
structure Tells (p : Program) (f : RunFault) : Prop where
  output : p.output = ""
  errors : ∃ notices, p.errors = notices ++ [.text ("[TEST FAILURE] " ++ f.message ++ "\n")]
  ending : p.ending = .returned 1

variable {words : List String} {host : Host} {a : Arguments} {f : AuditFault}

/-- The program tells of a fault of the audit that is a failure of what is
checked. -/
theorem tells_of_isFailure (ha : Arguments.ofWords words = .ok a)
    (q : Run.Prepared (orderOf a) host) (hf : q.audit.fault = some f)
    (hfailure : (RunFault.audit f).isFailure = true) : Tells (ofWords words host) (.audit f) := by
  have houtcome := q.outcome_of_fault hf
  unfold ofWords ofRun
  simp only [ha, houtcome, hfailure, if_true]
  exact ⟨rfl, ⟨_, rfl⟩, rfl⟩

/-- Any other fault of the audit escapes. -/
theorem ending_of_not_isFailure (ha : Arguments.ofWords words = .ok a)
    (q : Run.Prepared (orderOf a) host) (hf : q.audit.fault = some f)
    (hfailure : (RunFault.audit f).isFailure = false) :
    (ofWords words host).ending = .escaped (.audit f) := by
  have houtcome := q.outcome_of_fault hf
  unfold ofWords ofRun
  simp only [ha, houtcome, hfailure, Bool.false_eq_true, if_false]

end Program

end DeliveryAudit
