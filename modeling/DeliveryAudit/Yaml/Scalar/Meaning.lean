import DeliveryAudit.Text.Lowercase
import DeliveryAudit.Value
import DeliveryAudit.Yaml.Fault
import DeliveryAudit.Yaml.Scalar.Base64
import DeliveryAudit.Yaml.Scalar.Schema
/-!
# The value of a scalar

A tag gives the text of a scalar a value: integers in four bases and in
sixties, real numbers, truth values, bytes and timestamps.
-/

namespace DeliveryAudit.Yaml.Scalar

/-- A text without its underscores. -/
def dropSpacing (t : Text) : Text := t.filter (· != .scalar '_')

/-- A sign at the front of a text, and what follows it. -/
def splitSign : Text → Except ScalarFault (Bool × Text)
  | [] => .error .empty
  | .scalar '-' :: t => .ok (true, t)
  | .scalar '+' :: t => .ok (false, t)
  | t => .ok (false, t)

/-- The pieces of a text between colons. -/
def atColons (t : Text) : List Text := t.splitOn (.scalar ':')

/-- The integer that a text denotes in a base. -/
def integerIn (base : Nat) (t : Text) : Except ScalarFault Int :=
  match Number.integer base t with
  | .ok n => .ok n
  | .error .malformed => .error (.integer base t)
  | .error (.tooLong n) => .error (.longInteger n)

/-- The integer that a text denotes. -/
def integer (t : Text) : Except ScalarFault Int := do
  let (negative, t) ← splitSign (dropSpacing t)
  let n ← match t with
    | [] => .error .empty
    | [.scalar '0'] => pure 0
    | .scalar '0' :: .scalar 'b' :: ds => integerIn 2 ds
    | .scalar '0' :: .scalar 'x' :: ds => integerIn 16 ds
    | .scalar '0' :: _ => integerIn 8 t
    | _ =>
      if t.contains (.scalar ':') then do
        let ns ← (atColons t).mapM (integerIn 10)
        pure (ns.foldl (fun n d => n * 60 + d) 0)
      else
        integerIn 10 t
  return if negative then -n else n

/-- The real number that a text denotes. -/
def realIn (t : Text) : Except ScalarFault Float :=
  match Number.real? t with
  | some x => .ok x
  | none => .error (.real t)

/-- The sum of numbers, the first of which counts `base`, and each next
one sixty times as much. -/
def sumSixties (base : Nat) (sum : Float) : List Float → Except ScalarFault Float
  | [] => .ok sum
  | x :: xs =>
    match Number.ofInt? base with
    | none => .error .hugeReal
    | some b => sumSixties (base * 60) (sum + x * b) xs

/-- The name of what is no number. -/
def noNumberName : Text := Text.ofString ".nan"

/-- Whether a text is the name of what is no number, with any sign. -/
def namesNoNumber (t : Text) : Bool :=
  match splitSign (dropSpacing t).lower with
  | .ok (_, t) => t == noNumberName
  | .error _ => false

/-- The real number that the text of a scalar denotes. -/
def real (t : Text) : Except ScalarFault Float := do
  let (negative, t) ← splitSign (dropSpacing t).lower
  let infinity : Float := 1.0 / 0.0
  if t == Text.ofString ".inf" then
    return if negative then -infinity else infinity
  else if t == noNumberName then
    return 0.0 / 0.0
  else
    let x ← if t.contains (.scalar ':') then do
        let xs ← (atColons t).mapM realIn
        sumSixties 1 0.0 xs.reverse
      else
        realIn t
    return if negative then -x else x

/-- The truth value that a text is. -/
def truth (t : Text) : Except ScalarFault Bool :=
  let word := t.lower
  if ["yes", "true", "on"].any fun w => word == Text.ofString w then .ok true
  else if ["no", "false", "off"].any fun w => word == Text.ofString w then .ok false
  else .error (.truth word)

/-- The date or moment that a text is. -/
def timestamp (t : Text) : Except ScalarFault Value :=
  let written := (t.mapM CodePoint.toChar?).map Schema.dropFinalNewline
  match written.bind Timestamp.ofChars? with
  | none => .error .noTimestamp
  | some s =>
    match s.check with
    | some f => .error (.calendar f)
    | none => .ok (if s.hasTime then .moment s.moment else .date s.moment.date)

/-- The bytes that a text encodes. -/
def binary (t : Text) : Except Problem (List UInt8) :=
  let ascii (p : CodePoint) : Bool := p.value < 128
  match t.dropWhile ascii with
  | lead :: rest =>
    let first := (t.takeWhile ascii).length
    .error (.notAscii lead first (1 + (rest.takeWhile fun p => !ascii p).length))
  | [] => (Base64.decode t.chars).mapError .base64

/-- The value of a scalar at a place, by its tag. -/
def value (tag : Tag) (t : Text) (m : Mark) : Except Fault Value :=
  match tag with
  | .null => .ok .null
  | .bool => (truth t).map Value.bool |>.mapError .scalar
  | .int => (integer t).map Value.int |>.mapError .scalar
  | .float => (real t).map Value.real |>.mapError .scalar
  | .timestamp => (timestamp t).mapError .scalar
  | .binary => (binary t).map Value.bytes |>.mapError fun p => .complaint ⟨none, none, p, m⟩
  | _ => .ok (.text t)

end DeliveryAudit.Yaml.Scalar
