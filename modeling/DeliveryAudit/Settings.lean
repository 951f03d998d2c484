import DeliveryAudit.Settings.Environment
import DeliveryAudit.Settings.Tunable
/-!
# Settings

The settings of a run come from environment variables and a settings
file. Five of them have to be in the environment; the tunable numbers may
be in either, and the environment goes first. The settings are checked in
a fixed order, and the first fault is the one reported.
-/

namespace DeliveryAudit

/-- What kind of destination is read. -/
inductive DestinationKind where
  | bucket
  | logStream
deriving DecidableEq

namespace DestinationKind

/-- The kinds, in the order in which messages list them. -/
def all : List DestinationKind := [bucket, logStream]

/-- The name of a kind in the settings. -/
def name : DestinationKind → String
  | bucket => "s3"
  | logStream => "cloudwatch"

/-- The kind with this name. -/
def ofName? (s : String) : Option DestinationKind := all.find? fun k => k.name == s

end DestinationKind

/-- The settings of a run. The stem is the start of the keys in a bucket,
and the name of a log stream. -/
structure Settings where
  region : String
  bucket : String
  logGroup : String
  stem : String
  destination : String
  recordBase : Int
  budget : RetryBudget Float

namespace Settings

/-- The stream in the log group: it is named for the stem. -/
def logStream (s : Settings) : String := s.stem

/-- A setting that has to be in the environment. -/
inductive Required where
  | region
  | bucket
  | logGroup
  | stem
  | destination
deriving DecidableEq

namespace Required

/-- The environment variable of a required setting. -/
def variableName : Required → String
  | region => "AWS_REGION"
  | bucket => "S3_BUCKET_NAME"
  | logGroup => "CW_LOG_GROUP_NAME"
  | stem => "LOG_PREFIX"
  | destination => "DESTINATION"

/-- What is said when a required setting is missing. -/
def complaint : Required → String
  | region => "AWS Region required"
  | bucket => "Bucket name required"
  | logGroup => "Log group name required"
  | stem => "Object prefix required"
  | destination => "Log destination for validation required"

end Required

/-- What is wrong with the settings. -/
inductive Defect where
  | missing (r : Required)
  | unsupported (destination : String)
  /-- The section on retries is no mapping. -/
  | retryShape
  | tunable (t : Tunable) (o : Tunable.Objection) (v : Value)

/-- Why there are no settings: they are defective, or something in them
cannot be handled at all. -/
inductive Fault where
  | defect (d : Defect)
  /-- What is read from the file has no sections. -/
  | noSections (kind : String)
  | tooLarge
  | infinite
  /-- The value to be complained of cannot be written. -/
  | unwritable (f : Value.QuotingFault)

variable [Bounds]

/-- The wording of a defect. -/
def Defect.message : Defect → String
  | missing r => r.complaint ++ ". Set the value for environment variable- " ++ r.variableName
  | unsupported destination =>
    "Unsupported destination " ++ quoted destination ++ "; expected one of: " ++
      ", ".intercalate (DestinationKind.all.map DestinationKind.name)
  | retryShape => "'retry' section must be a mapping"
  | tunable t o v =>
    t.variableName ++ (if o = .negative then " must not be " else " must be ") ++ o.text ++
      ", got " ++ v.quoted

/-- The wording of a fault. -/
def Fault.message : Fault → String
  | defect d => d.message
  | noSections kind => quoted kind ++ " object has no attribute 'get'"
  | tooLarge => "int too large to convert to float"
  | infinite => "cannot convert float infinity to integer"
  | unwritable f => f.message

/-- The text of a required setting. -/
def require (env : Environment) (r : Required) : Except Fault String :=
  (env.nonempty? r.variableName).elim (.error (.defect (.missing r))) .ok

/-- The sections of what is read from a settings file. Nothing, and any
empty value, has none. -/
def sections (file : Value) : Except Fault (List (Value × Value)) :=
  match file.entries? with
  | some entries => .ok entries
  | none => if file.isTruthy then .error (.noSections file.kindName) else .ok []

/-- The section on retries. It may be missing, or any empty value. -/
def retrySection (file : List (Value × Value)) : Except Fault (List (Value × Value)) :=
  let v := (Value.entry? "retry" file).getD .null
  match v.entries? with
  | some entries => .ok entries
  | none => if v.isTruthy then .error (.defect .retryShape) else .ok []

/-- The value of a tunable before it is checked: from the environment,
else from its section, else the usual one. -/
def source (env : Environment) (t : Tunable) (entries : List (Value × Value)) : Value :=
  match env.value? t.variableName with
  | some s => Value.ofString s
  | none => (Value.entry? t.entryName entries).getD t.usual

/-- The fault of a value that is refused as a tunable. -/
def refused (t : Tunable) (v : Value) : Tunable.Refusal → Fault
  | .objection o =>
    match v.quoted? with
    | .ok _ => .defect (.tunable t o v)
    | .error f => .unwritable f
  | .tooLarge => .tooLarge
  | .infinite => .infinite

/-- A tunable by its check. -/
def tune {α : Type} (check : Value → Except Tunable.Refusal α) (t : Tunable) (v : Value) :
    Except Fault α :=
  match check v with
  | .ok a => .ok a
  | .error r => .error (refused t v r)

/-- The kind of destination with this name. -/
def kindOf (destination : String) : Except Fault DestinationKind :=
  (DestinationKind.ofName? destination).elim (.error (.defect (.unsupported destination))) .ok

/-- The settings that an environment and what is read from a settings file
make. -/
def ofSources (env : Environment) (file : Value) : Except Fault Settings := do
  let region ← require env .region
  let bucket ← require env .bucket
  let logGroup ← require env .logGroup
  let stem ← require env .stem
  let destination ← require env .destination
  -- The environment is checked as a whole before the file is looked at.
  let kind ← kindOf destination
  let file ← sections file
  let retries ← retrySection file
  let delay ← tune Tunable.time .delay (source env .delay retries)
  let maxAttempts ← tune Tunable.count .maxAttempts (source env .maxAttempts retries)
  let maxDuration ← tune Tunable.time .maxDuration (source env .maxDuration retries)
  let recordBase ← tune Tunable.count .recordBase (source env .recordBase file)
  return {
    region := region
    bucket := bucket
    logGroup := logGroup
    stem := stem
    destination := kind.name
    recordBase := recordBase
    budget := ⟨delay, maxAttempts, maxDuration⟩ }

end Settings

end DeliveryAudit
