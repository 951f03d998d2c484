import DeliveryAudit.Value
/-!
# Errors of service calls

A call to a service fails in one of several ways: the service refuses it,
with a response that says why; the transport fails; the operating system
reports an error; the user interrupts; or something else goes wrong. A
refusal may be throttling, which is worth another attempt.
-/

namespace DeliveryAudit

/-- Why a call to a service failed. -/
inductive CallError where
  /-- The service refused the operation, with these entries in its
  response. -/
  | refused (response : List (Value × Value)) (operation : String)
  | transport (text : String)
  | system (name text : String)
  | interrupted
  | other (name text : String)

namespace CallError

/-- The entries of a value that is a mapping, if it is there. -/
def entriesOf : Option Value → List (Value × Value)
  | some (.mapping entries) => entries
  | _ => []

variable [Bounds]

/-- What a response says about the error. -/
def details (response : List (Value × Value)) : List (Value × Value) :=
  entriesOf (Value.entry? "Error" response)

/-- An entry of the error in a response, in writing. -/
def detail (name : String) (response : List (Value × Value)) : Text :=
  ((Value.entry? name (details response)).map Value.display).getD (Text.ofString "Unknown")

/-- How often a refused call has been repeated on the way, in writing;
nothing is said unless the repeats are used up. -/
def repeats (response : List (Value × Value)) : Text :=
  let metadata := entriesOf (Value.entry? "ResponseMetadata" response)
  match Value.entry? "MaxAttemptsReached" metadata, Value.entry? "RetryAttempts" metadata with
  | some reached, some attempts =>
    if reached.isTruthy then
      Text.ofString " (reached max retries: " ++ attempts.display ++ Text.ofString ")"
    else
      []
  | _, _ => []

/-- A refusal in writing. -/
def refusalText (response : List (Value × Value)) (operation : String) : Text :=
  Text.ofString "An error occurred (" ++ detail "Code" response ++
    Text.ofString (") when calling the " ++ operation ++ " operation") ++ repeats response ++
    Text.ofString ": " ++ detail "Message" response

/-- An error in writing, as it is shown. -/
def text : CallError → String
  | refused response operation => (refusalText response operation).shown
  | transport text => text
  | system _ text => text
  | interrupted => ""
  | other _ text => text

/-- The codes of refusals that mean throttling. -/
def throttlingCodes : List String :=
  ["ThrottlingException", "Throttling", "SlowDown", "RequestLimitExceeded",
    "TooManyRequestsException"]

/-- The words in a message that mean throttling. -/
def throttlingWords : String := "Rate exceeded"

/-- Whether a word occurs anywhere in a text. -/
def occursIn (word : Text) : Text → Bool
  | [] => word.isEmpty
  | p :: ps => word.isPrefixOf (p :: ps) || occursIn word ps

/-- Whether a text contains the words that mean throttling. -/
def saysThrottled (t : Text) : Bool := occursIn (Text.ofString throttlingWords) t

/-- A code that cannot be looked up among others. -/
structure UnhashableCode where
  kind : String

/-- Whether a refusal with this response means throttling. -/
def isThrottlingResponse (response : List (Value × Value)) (operation : String) :
    Except UnhashableCode Bool :=
  let code := (Value.entry? "Code" (details response)).getD .null
  let message := ((Value.entry? "Message" (details response)).map Value.display).getD []
  if !code.isHashable then
    .error ⟨code.kindName⟩
  else
    .ok (throttlingCodes.any (fun c => code.same (Value.ofString c)) || saysThrottled message ||
      saysThrottled (refusalText response operation))

/-- Whether an error means throttling. Only refusals do. -/
def isThrottling : CallError → Except UnhashableCode Bool
  | refused response operation => isThrottlingResponse response operation
  | _ => .ok false

/-- What an error means for a call that may be repeated. -/
inductive Judgement where
  | throttled
  | failed
  /-- The error is none of the service's or the transport's. -/
  | foreign
  | unhashable (kind : String)
deriving DecidableEq

/-- What an error means. -/
def judge (e : CallError) : Judgement :=
  match e with
  | refused _ _ =>
    match e.isThrottling with
    | .ok true => .throttled
    | .ok false => .failed
    | .error c => .unhashable c.kind
  | transport _ => .failed
  | system _ _ | interrupted | other _ _ => .foreign

end CallError

end DeliveryAudit
