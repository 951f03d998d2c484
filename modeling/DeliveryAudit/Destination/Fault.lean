import DeliveryAudit.Compression.Gzip
import DeliveryAudit.Retry.Settlement
import DeliveryAudit.Text.Utf8
/-!
# Why a destination is not read

A destination fails, or what it delivers is no text, or an answer does
not have the shape that is expected of it.
-/

namespace DeliveryAudit

/-- What fails at a destination. -/
inductive DestinationFault where
  | call (f : CallFault Float)
  | unreadable (key : Text) (e : CallError)
  | notGzip (key : Text) (f : Gzip.Fault)
  | noContinuation (bucket : String)
  | noForwardToken (group : String)
  | unregistered (destination : String)
  | noClient (destination : String) (text : String)

/-- The wording of a failure. -/
def DestinationFault.message [Bounds] : DestinationFault → String
  | call f => f.message
  | unreadable key e => "Error to read GetObject response for " ++ key.quoted ++ ": " ++ e.text
  | notGzip key f => "Object " ++ key.quoted ++ " is not valid gzip: " ++ f.message
  | noContinuation bucket =>
    "Listing of bucket " ++ quoted bucket ++ " is truncated but carries no continuation token"
  | noForwardToken group =>
    "Log events page from " ++ quoted group ++ " carries no forward token"
  | unregistered destination => "No reader registered for destination " ++ quoted destination
  | noClient destination text => "Unable to create " ++ destination ++ " client: " ++ text

/-- How an answer is not of the shape that is expected. -/
inductive ShapeFault where
  /-- A member is missing. -/
  | missing (name : String)
  /-- Something without parts stands for a list. -/
  | noParts (kind : String)
  /-- Something without members stands for a mapping. -/
  | noMembers (kind : String)
  /-- Something that cannot be looked into by name. -/
  | noEntries (v : Value)
  /-- Something that cannot be looked up. -/
  | unhashable (kind : String)

/-- The wording of a wrong shape. -/
def ShapeFault.message : ShapeFault → String
  | missing name => quoted name
  | noParts kind => "object of type " ++ quoted kind ++ " has no len()"
  | noMembers kind => quoted kind ++ " object has no attribute 'get'"
  | noEntries v =>
    match v with
    | .text _ => "string indices must be integers, not 'str'"
    | .list _ => "list indices must be integers or slices, not str"
    | v => quoted v.kindName ++ " object is not subscriptable"
  | unhashable kind => "unhashable type: " ++ quoted kind

/-- Why a traversal ends before its time. -/
inductive TraversalFault where
  | destination (f : DestinationFault)
  /-- An object holds bytes that are no text. -/
  | notText (key : Text) (f : Utf8.Fault)
  /-- The compressed data of an object are corrupt. -/
  | corrupt (c : Inflate.Corruption)
  /-- An error of a call that is passed on as it is. -/
  | foreign (e : CallError)
  | shape (f : ShapeFault)
  /-- The destination has been read before. -/
  | again (reader : String)
  /-- Throttling goes on without an end in sight. -/
  | unsettled

/-- The wording of bytes that are no text. -/
def notTextMessage (key : Text) (f : Utf8.Fault) : String :=
  "Object " ++ key.quoted ++ " is not UTF-8 text: " ++ f.message

/-- The wording of the end of a traversal. -/
def TraversalFault.message [Bounds] : TraversalFault → String
  | destination f => f.message
  | notText key f => notTextMessage key f
  | corrupt c => (Gzip.Fault.data c).message
  | foreign e => e.text
  | shape f => f.message
  | again reader => reader ++ " has already been traversed"
  | unsettled => "throttled without end"

end DeliveryAudit
