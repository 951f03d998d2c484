import DeliveryAudit.Audit
import DeliveryAudit.Destination.Setup
import DeliveryAudit.Report
import DeliveryAudit.Settings.File
/-!
# Runs

A run reads the settings, sets up a reader, audits the destination, and
reports. The first fault ends it. Some faults are failures of what is
checked: of the settings, the destination or a delivered line. Any other
fault is none that a run accounts for.
-/

namespace DeliveryAudit

/-- What a run finds around it: the environment, the files, and what makes
clients. -/
structure Host where
  environment : Environment
  opener : Opener
  makeClient : ClientMaker

/-- What a run is asked for: how many records were produced, the delay of
the log, and the settings file. -/
structure RunOrder where
  totalRecords : Int
  logDelay : String
  settingsPath : Option String

/-- Why a run ends before its time. -/
inductive RunFault where
  | file (f : SettingsFile.Fault)
  | settings (f : Settings.Fault)
  | roster (f : Roster.Fault)
  | setup (f : SetupFault)
  | audit (f : AuditFault)
  /-- The report is asked for a number of records that is not positive. -/
  | noRecords (totalRecords : Int)
  /-- A figure of the report has too many digits to be written. -/
  | tooLong

namespace RunFault

/-- The wording of the end of a run. -/
def message [Bounds] : RunFault → String
  | file f => f.message
  | settings f => f.message
  | roster f => f.message
  | setup f => f.message
  | audit f => f.message
  | noRecords totalRecords => Report.notPositiveText totalRecords
  | tooLong => Number.writingLimitText

/-- Whether a fault is a failure of what is checked. -/
def isFailure : RunFault → Bool
  | file (.unopened _ .notFound) => true
  | file (.yaml _ (.complaint _)) => true
  | file (.yaml _ (.character _ _)) => true
  | file (.noMapping _) => true
  | settings (.defect _) => true
  | setup (.destination _) => true
  | audit (.traversal (.destination _)) => true
  | audit (.traversal (.notText _ _)) => true
  | audit (.tally (.record (.malformed _))) => true
  | _ => false

/-- Whether a run ends because the user interrupts it. -/
def isInterrupt : RunFault → Bool
  | setup (.foreign .interrupted) => true
  | audit (.traversal (.foreign .interrupted)) => true
  | _ => false

end RunFault

/-- A run that has ended: what has happened, in order, the clients that
were asked for, and the report or a fault. -/
structure Run where
  history : List Event
  clientOrders : List (String × String)
  outcome : Except RunFault String

namespace Run

variable [Bounds]

/-- The notice at the start of a run. -/
def opening (o : RunOrder) (s : Settings) : Event :=
  .logged ⟨.info, .main, "Validating " ++ toString o.totalRecords ++ " records at destination=" ++
    s.destination ++ " region=" ++ s.region⟩

/-- The report on an audit that came to its end. -/
def report (o : RunOrder) (r : Reader) (a : Audit) : Except RunFault String :=
  match Report.ofCounts? o.totalRecords a.tally.lines a.tally.roster o.logDelay
      (r.summary a.history) with
  | none => .error (.noRecords o.totalRecords)
  | some report => (report.text?).elim (.error .tooLong) .ok

/-- What comes of an audit. -/
def outcomeOf (o : RunOrder) (r : Reader) (a : Audit) : Except RunFault String :=
  match a.fault with
  | some f => .error (.audit f)
  | none => report o r a

/-- The run by these settings, after what has happened before. -/
def bySettings (o : RunOrder) (make : ClientMaker) (s : Settings) (before : List Event) : Run :=
  match Roster.ofRange o.totalRecords s.recordBase with
  | .error f => ⟨before, [], .error (.roster f)⟩
  | .ok roster =>
    match s.reader make with
    | .error f => ⟨before, s.clientOrder?.toList, .error (.setup f)⟩
    | .ok r =>
      let audit := Audit.run r roster
      ⟨before ++ audit.history, s.clientOrder?.toList, outcomeOf o r audit⟩

/-- The run that is asked for. -/
def ofOrder (o : RunOrder) (host : Host) : Run :=
  match SettingsFile.read host.opener o.settingsPath with
  | .error f => ⟨[], [], .error (.file f)⟩
  | .ok file =>
    let read := file.notices.map Event.logged
    match Settings.ofSources host.environment (.mapping file.entries) with
    | .error f => ⟨read, [], .error (.settings f)⟩
    | .ok s => bySettings o host.makeClient s (read ++ [opening o s])

end Run

end DeliveryAudit
