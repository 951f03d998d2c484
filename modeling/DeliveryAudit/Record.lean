import DeliveryAudit.Json.Reading
import DeliveryAudit.Text.Lowercase
import DeliveryAudit.Text.Quoted
import DeliveryAudit.Text.Utf8
import DeliveryAudit.Value
/-!
# Records

A record is delivered as a payload, which starts with the eight
characters of its id. Some destinations wrap the payload in an envelope:
a JSON object on one line whose member `log`, in upper or lower case,
holds it.
-/

namespace DeliveryAudit

/-- A record: its id, and what follows it in the payload. -/
structure Record where
  id : Text
  rest : Text
deriving DecidableEq

namespace Record

/-- How many characters an id has. -/
def idLength : Nat := 8

/-- How many characters of a line are shown in a message. -/
def sampleLength : Nat := 80

/-- What is wrong with a delivered line. -/
inductive Defect where
  /-- The line is no JSON text: something is missing where `left`
  characters are still to be read. -/
  | json (what : Json.Lack) (left : Nat) (line : Text)
  | notObject (kind : String)
  | noPayload (line : Text)
  | short (payload : Value)

/-- Why a line holds no record: the line is malformed, or it has parts
that cannot be handled at all. -/
inductive Fault where
  | malformed (d : Defect)
  /-- An integer with more digits than can be read. -/
  | longInteger (digits : Nat)
  /-- Arrays or objects nested too deeply. -/
  | nesting (container : Json.Container)
  /-- A payload of a kind that has no length. -/
  | noLength (kind : String)
  /-- A payload that is too short and cannot be written in the message on
  it. -/
  | unwritable (f : Value.QuotingFault)
  /-- A payload that has parts, but no first ones. -/
  | noStart (payload : Value)
  /-- A list as a payload. Its first parts are taken for the id, which
  cannot be looked up. -/
  | listId

/-- Whether a line counts before its fault shows. -/
def Fault.isCounted : Fault → Bool
  | listId => true
  | _ => false

/-- The start of a line, as it is shown in a message. -/
def sample (line : Text) : String := Text.quoted (line.take sampleLength)

variable [Bounds]

/-- The wording of a defect. -/
def Defect.message : Defect → String
  | json what left line =>
    "Json decode error: " ++ what.message line left ++ " in line " ++ sample line
  | notObject kind => "Expected a JSON object, got " ++ kind
  | noPayload line => "Missing string 'log' field in line " ++ sample line
  | short payload => "Payload shorter than " ++ toString idLength ++ " characters: " ++
      payload.quoted

/-- The name of the member that holds the payload. -/
def payloadName : Text := Text.ofString "log"

/-- The wording of a fault. -/
def Fault.message : Fault → String
  | malformed d => d.message
  | longInteger digits => Number.readingLimitText digits
  | nesting container =>
    "maximum recursion depth exceeded while decoding a JSON " ++
      (match container with
      | .array => "array"
      | .object => "object") ++ " from a unicode string"
  | noLength kind => "object of type " ++ quoted kind ++ " has no len()"
  | unwritable f => f.message
  | noStart (.mapping _) => "unhashable type: 'slice'"
  | noStart payload => quoted payload.kindName ++ " object is not subscriptable"
  | listId => "unhashable type: 'list'"

/-- The member that counts as the payload: the one of that very name,
unless it is missing or null; else the first one whose name agrees in
lower case. -/
def payloadMember? (members : List (Text × Json)) : Option Json :=
  match Json.member? payloadName members with
  | some .null | none => (members.find? fun m => m.1.lower == payloadName).map Prod.snd
  | some v => some v

/-- The payload that a decoded line holds. -/
def payloadOf (line : Text) : Json → Except Fault Text
  | .object written =>
    match payloadMember? (Json.latest written) with
    | some (.text t) => .ok t
    | _ => .error (.malformed (.noPayload line))
  | v => .error (.malformed (.notObject v.kindName))

/-- The payload in the envelope that a line is. -/
def openEnvelope (line : Text) : Except Fault Text :=
  match Json.read line with
  | .ok v => payloadOf line v
  | .error (.lack what left) => .error (.malformed (.json what left line))
  | .error (.longInteger digits) => .error (.longInteger digits)
  | .error (.nesting container) => .error (.nesting container)

/-- The record of a payload. -/
def ofPayload (payload : Text) : Except Fault Record :=
  if payload.length < idLength then
    .error (.malformed (.short (.text payload)))
  else
    .ok ⟨payload.take idLength, payload.drop idLength⟩

/-- The record of a payload that may be any value; only texts are
payloads. -/
def ofValue : Value → Except Fault Record
  | .text t => ofPayload t
  | v =>
    match v.size? with
    | none => .error (.noLength v.kindName)
    | some n =>
      if n < idLength then
        match v.quoted? with
        | .ok _ => .error (.malformed (.short v))
        | .error f => .error (.unwritable f)
      else
        -- What a service answers holds no bytes, of which there is a start as well.
        match v with
        | .list _ => .error .listId
        | v => .error (.noStart v)

/-- The record of a delivered line, in an envelope or bare. -/
def ofLine (enveloped : Bool) (line : Value) : Except Fault Record :=
  match enveloped, line with
  | true, .text t =>
    match openEnvelope t with
    | .ok payload => ofPayload payload
    | .error f => .error f
  | _, v => ofValue v

end Record

end DeliveryAudit
