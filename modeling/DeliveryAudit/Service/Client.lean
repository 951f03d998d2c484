import DeliveryAudit.Service.CallError
/-!
# Clients

A client makes requests to one service. How the service will answer is
written down beforehand: for every operation a script of answers, which
are used up one after another. What comes after the script is either that
it is used up or, for objects, its last answer again and again.
-/

namespace DeliveryAudit

/-- A request to a service. -/
inductive Request where
  | listObjects (bucket stem : String) (token : Option Value)
  | getObject (bucket : String) (key : Value)
  | getLogEvents (group stream : String) (token : Option Value)

namespace Request

/-- The operation that a request asks for. -/
def operation : Request → String
  | listObjects _ _ _ => "ListObjectsV2"
  | getObject _ _ => "GetObject"
  | getLogEvents _ _ _ => "GetLogEvents"

end Request

/-- An answer to a request, and how long it takes. -/
structure Answer (τ α : Type) where
  takes : τ
  outcome : Except CallError α

/-- The contents of an object, which may fail to be read, or be missing
from the answer. -/
inductive Body where
  | bytes (bs : List UInt8)
  | unreadable (e : CallError)
  | absent

/-- The answers of a service to come, for every operation. -/
structure Client where
  listings : List (Answer Float Value)
  events : List (Answer Float Value)
  objects : List (Text × List (Answer Float Body))
  /-- What is answered when a script is used up. -/
  afterwards : String → CallError
  /-- What is answered for an object that has no script. -/
  unknownObject : CallError

/-- Answers that are used up one after another, and the one that follows
when none is left. -/
structure Script (α : Type) where
  answers : List (Answer Float α)
  last : Answer Float α

namespace Client

/-- A refusal with a code and a message. -/
def refusal (code message operation : String) : CallError :=
  .refused
    [(Value.ofString "Error", .mapping
      [(Value.ofString "Code", Value.ofString code),
        (Value.ofString "Message", Value.ofString message)])]
    operation

/-- The client that answers by these scripts. -/
def ofScripts (listings events : List (Answer Float Value))
    (objects : List (Text × List (Answer Float Body))) : Client :=
  { listings := listings
    events := events
    objects := objects
    afterwards := fun operation => refusal "ScriptEnd" "no more responses" operation
    unknownObject := refusal "NoSuchKey" "The specified key does not exist." "GetObject" }

/-- The client of a service that lets nobody in for want of
credentials. -/
def withoutCredentials : Client :=
  let e : CallError := .transport "Unable to locate credentials"
  { listings := []
    events := []
    objects := []
    afterwards := fun _ => e
    unknownObject := e }

/-- The answer after a script that is used up. -/
def ended {α : Type} (c : Client) (operation : String) : Answer Float α :=
  ⟨0.0, .error (c.afterwards operation)⟩

/-- The script of the listings. -/
def listingScript (c : Client) : Script Value := ⟨c.listings, c.ended "ListObjectsV2"⟩

/-- The script of the pages of log events. -/
def eventScript (c : Client) : Script Value := ⟨c.events, c.ended "GetLogEvents"⟩

/-- The answers for the object with this key: the last one stays. -/
def objectScript (c : Client) (key : Text) : Script Body :=
  match c.objects.lookup key with
  | none => ⟨[], ⟨0.0, .error c.unknownObject⟩⟩
  | some answers =>
    match answers.getLast? with
    | none => ⟨[], c.ended "GetObject"⟩
    | some a => ⟨answers.dropLast, a⟩

/-- Entries by key, with the one for a key replaced. -/
def replaceKey {α : Type} (key : Text) (v : α) : List (Text × α) → List (Text × α)
  | [] => []
  | (k, w) :: rest => if k == key then (k, v) :: rest else (k, w) :: replaceKey key v rest

/-- The client with these answers left for the object with this key,
before the last one. -/
def setObject (c : Client) (key : Text) (left : List (Answer Float Body)) : Client :=
  match c.objects.lookup key with
  | some answers =>
    { c with objects := replaceKey key (left ++ answers.getLast?.toList) c.objects }
  | none => c

end Client

end DeliveryAudit
