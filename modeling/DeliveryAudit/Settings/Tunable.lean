import DeliveryAudit.Number.Numeral
import DeliveryAudit.Retry.Budget
import DeliveryAudit.Value
/-!
# Tunable numbers

Four settings are numbers: two times, which are real, and two counts,
which are integers. A text stands for the number it denotes, a truth value
for zero or one, and a real number where an integer is asked for is cut
off at the point. Times and counts are finite and not negative.
-/

namespace DeliveryAudit

/-- A setting that is a number. -/
inductive Tunable where
  | delay
  | maxAttempts
  | maxDuration
  | recordBase
deriving DecidableEq

namespace Tunable

/-- The environment variable of a tunable, which also names it in
messages. -/
def variableName : Tunable → String
  | delay => "RETRY_DELAY_SECONDS"
  | maxAttempts => "RETRY_MAX_ATTEMPTS"
  | maxDuration => "RETRY_MAX_DURATION_SECONDS"
  | recordBase => "RECORD_ID_BASE"

/-- The name of a tunable in its section of the settings file. -/
def entryName : Tunable → String
  | delay => "delay_seconds"
  | maxAttempts => "max_attempts"
  | maxDuration => "max_duration_seconds"
  | recordBase => "record_id_base"

/-- The value of a tunable that is set nowhere. -/
def usual : Tunable → Value
  | delay => .real RetryBudget.usual.delay
  | maxAttempts => .int RetryBudget.usual.maxAttempts
  | maxDuration => .real RetryBudget.usual.maxDuration
  | recordBase => .int 10000000

/-- What is wrong with a value as a tunable. -/
inductive Objection where
  | noNumber
  | notFinite
  | negative
deriving DecidableEq

/-- The wording of an objection. -/
def Objection.text : Objection → String
  | noNumber => "a number"
  | notFinite => "a finite number"
  | negative => "negative"

/-- Why a value is refused: there is an objection to it, or it cannot be
handled at all. -/
inductive Refusal where
  | objection (o : Objection)
  /-- An integer beyond the largest real number. -/
  | tooLarge
  /-- An infinite number where an integer is asked for. -/
  | infinite
deriving DecidableEq

/-- Bytes that are ASCII, as text; any other byte becomes a character that
occurs in no numeral. -/
def asciiText (bytes : List UInt8) : Text :=
  bytes.map fun b => .scalar (if b < 0x80 then Char.ofNat b.toNat else '?')

/-- The real number that a value stands for. -/
def toReal : Value → Except Refusal Float
  | .real x => .ok x
  | .int n => (Number.ofInt? n).elim (.error .tooLarge) .ok
  | .bool b => .ok (if b then 1.0 else 0.0)
  | .text t => (Number.real? t).elim (.error (.objection .noNumber)) .ok
  | .bytes bs => (Number.real? (asciiText bs)).elim (.error (.objection .noNumber)) .ok
  | _ => .error (.objection .noNumber)

/-- The integer that a text stands for. -/
def textToInteger (t : Text) : Except Refusal Int :=
  match Number.integer 10 t with
  | .ok n => .ok n
  | .error _ => .error (.objection .noNumber)

/-- The integer that a value stands for. -/
def toInteger : Value → Except Refusal Int
  | .int n => .ok n
  | .bool b => .ok (if b then 1 else 0)
  | .real x =>
    match Number.parts x with
    | .nan => .error (.objection .noNumber)
    | .infinite _ => .error .infinite
    | .finite negative mantissa exponent => .ok (Number.truncate negative mantissa exponent)
  | .text t => textToInteger t
  | .bytes bs => textToInteger (asciiText bs)
  | _ => .error (.objection .noNumber)

/-- A value as a time. -/
def time (v : Value) : Except Refusal Float :=
  match toReal v with
  | .error r => .error r
  | .ok x =>
    if x.isNaN || x.isInf then .error (.objection .notFinite)
    else if x < 0.0 then .error (.objection .negative)
    else .ok x

/-- A value as a count. Counts are no larger than real numbers. -/
def count (v : Value) : Except Refusal Int :=
  match toInteger v with
  | .error r => .error r
  | .ok n =>
    match Number.ofInt? n with
    | none => .error .tooLarge
    | some _ => if n < 0 then .error (.objection .negative) else .ok n

end Tunable

end DeliveryAudit
