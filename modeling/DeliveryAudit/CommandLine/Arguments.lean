import DeliveryAudit.CommandLine.Word
import DeliveryAudit.Number.Numeral
import DeliveryAudit.Text.Quoted
/-!
# Arguments

The arguments of a run: how many records were produced, the delay of the
log, and the options. They are taken from the words of a command line
from left to right, and the first fault ends the reading.
-/

namespace DeliveryAudit

/-- What is given for an operand or an option: a text, or nothing, where
the divider stands in its place. -/
inductive Given where
  | text (s : String)
  | nothing
deriving DecidableEq

namespace Given

/-- What is given, in writing. -/
def display : Given → String
  | text s => s
  | nothing => "[]"

/-- The text that is given, if there is one. -/
def text? : Given → Option String
  | text s => some s
  | nothing => none

/-- What a word gives. The divider gives nothing, unless another divider
stands beside it. -/
def ofWord (beside : Bool) (word : String) : Given :=
  if word = Role.dividerWord ∧ ¬ beside then nothing else text word

end Given

/-- The arguments of a run. -/
structure Arguments where
  totalRecords : Int
  logDelay : Given
  config : Option Given
  verbose : Bool
  totalRecords_pos : 0 < totalRecords := by omega

namespace Arguments

/-- What is wrong with a command line. -/
inductive UsageFault where
  | ambiguous (a : Ambiguity)
  | surplus (o : CommandOption) (text : String)
  | noText (o : CommandOption)
  | notInteger (text : String)
  | notPositive (n : Int)
  | emptyDelay
  | missing (names : List String)
  | unknown (words : List String)

/-- The wording of a fault. -/
def UsageFault.message : UsageFault → String
  | ambiguous a => "ambiguous option: " ++ a.word ++ " could match " ++ ", ".intercalate a.names
  | surplus o text => "argument " ++ o.title ++ ": ignored explicit argument " ++ quoted text
  | noText o => "argument " ++ o.title ++ ": expected one argument"
  | notInteger text =>
    "argument total_records: total input record number must be an integer, got " ++ quoted text
  | notPositive n =>
    "argument total_records: total input record number must be positive, got " ++ toString n
  | emptyDelay => "argument log_delay: log delay must not be empty"
  | missing names => "the following arguments are required: " ++ ", ".intercalate names
  | unknown words => "unrecognized arguments: " ++ " ".intercalate words

/-- Why there are no arguments: help is asked for, or the command line is
faulty. -/
inductive Stop where
  | help
  | usage (f : UsageFault)

/-- What has been taken from a command line so far. The words that are not
understood stand in order, the last one first. -/
structure Partial where
  totalRecords : Option { n : Int // 0 < n }
  logDelay : Option Given
  config : Option Given
  verbose : Bool
  unknown : List String

/-- Nothing has been taken. -/
def Partial.empty : Partial := ⟨none, none, none, false, []⟩

/-- The number of records that a word stands for. -/
def recordCount (word : String) : Except Stop { n : Int // 0 < n } :=
  match Number.integer 10 (Text.ofString word) with
  | .error _ => .error (.usage (.notInteger word))
  | .ok n => if h : 0 < n then .ok ⟨n, h⟩ else .error (.usage (.notPositive n))

/-- An operand, with or without the divider beside it: the number of
records first, then the delay of the log; any further one is not
understood. -/
def Partial.operand (p : Partial) (beside : Bool) (word : String) : Except Stop Partial :=
  match p.totalRecords, p.logDelay with
  | none, _ => (recordCount word).map fun n => { p with totalRecords := some n }
  | some _, none =>
    if word.isEmpty then .error (.usage .emptyDelay)
    else .ok { p with logDelay := some (.ofWord beside word) }
  | some _, some _ => .ok { p with unknown := word :: p.unknown }

/-- Whether an operand is still to come. -/
def Partial.isLacking (p : Partial) : Bool := p.totalRecords.isNone || p.logDelay.isNone

/-- What is taken from words with their roles. -/
def Partial.take (p : Partial) : List (String × Role) → Except Stop Partial
  | [] => .ok p
  -- A divider goes with the operand beside it while one is still to come.
  | (d, .divider) :: (w, .operand) :: ws =>
    if p.isLacking then do
      let p ← p.operand true w
      p.take ws
    else do
      let p ← ({ p with unknown := d :: p.unknown } : Partial).operand false w
      p.take ws
  | (w, .operand) :: (d, .divider) :: ws =>
    if p.isLacking then do
      let p ← p.operand true w
      p.take ws
    else
      ({ p with unknown := d :: w :: p.unknown } : Partial).take ws
  | (w, .operand) :: ws => do
    let p ← p.operand false w
    p.take ws
  | (_, .option .help) :: _ => .error .help
  | (_, .option .verbose) :: ws => ({ p with verbose := true } : Partial).take ws
  | (_, .option .config) :: (w, .operand) :: ws =>
    ({ p with config := some (.ofWord false w) } : Partial).take ws
  | (_, .option .config) :: _ => .error (.usage (.noText .config))
  | (_, .attached _ text) :: ws =>
    ({ p with config := some (.ofWord false text) } : Partial).take ws
  | (_, .surplus o text) :: _ => .error (.usage (.surplus o text))
  | (w, .divider) :: ws => ({ p with unknown := w :: p.unknown } : Partial).take ws
  | (w, .unknown) :: ws => ({ p with unknown := w :: p.unknown } : Partial).take ws

/-- The names of the operands that have not come. -/
def Partial.lacking (p : Partial) : List String :=
  (if p.totalRecords.isNone then ["total_records"] else []) ++
    (if p.logDelay.isNone then ["log_delay"] else [])

/-- The arguments that have been taken, if all have come and every word is
understood. -/
def Partial.finish (p : Partial) : Except Stop Arguments :=
  match p.totalRecords, p.logDelay with
  | some n, some logDelay =>
    if p.unknown.isEmpty then
      .ok ⟨n.val, logDelay, p.config, p.verbose, n.property⟩
    else
      .error (.usage (.unknown p.unknown.reverse))
  | _, _ => .error (.usage (.missing p.lacking))

/-- The arguments in the words of a command line. -/
def ofWords (words : List String) : Except Stop Arguments :=
  match Role.ofWords words with
  | .error a => .error (.usage (.ambiguous a))
  | .ok ws =>
    match Partial.empty.take ws with
    | .error s => .error s
    | .ok p => p.finish

/-- How the program is called. -/
def usage : String :=
  "usage: log-delivery-validator [-h] [--config CONFIG] [--verbose]\n" ++
  "                              total_records log_delay\n"

/-- What the program is for, and what its arguments mean. -/
def help : String :=
  usage ++
  "\nCount delivered, duplicated and lost load-test log records at S3 or\n" ++
  "CloudWatch.\n" ++
  "\npositional arguments:\n" ++
  "  total_records    Total number of records the load generator produced\n" ++
  "  log_delay        Log delay descriptor, echoed unchanged in the report\n" ++
  "\noptions:\n" ++
  "  -h, --help       show this help message and exit\n" ++
  "  --config CONFIG  Optional YAML file with retry and record id settings\n" ++
  "  --verbose        Enable debug logging on stderr\n"

/-- What is said of a faulty command line. -/
def UsageFault.report (f : UsageFault) : String :=
  usage ++ "log-delivery-validator: error: " ++ f.message ++ "\n"

end Arguments

end DeliveryAudit
