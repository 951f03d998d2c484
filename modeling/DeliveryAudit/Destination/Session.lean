import DeliveryAudit.Destination.Bucket
import DeliveryAudit.Destination.LogStream
/-!
# Reading sessions

A reader reads one destination, once. Its lines are pulled through
handles, of which any number may be given out; the first handle that is
pulled owns the traversal, and every other one only learns that it comes
too late. Nothing happens before the first pull, and a pull lets happen
no more than is needed for the lines it asks for.
-/

namespace DeliveryAudit

variable [Bounds]

/-- What is read. -/
inductive Destination where
  | bucket (b : Bucket)
  | logStream (s : LogStream)

namespace Destination

/-- Whether the lines of a destination are envelopes. -/
def enveloped : Destination → Bool
  | bucket _ => true
  | logStream _ => false

/-- What the reader of a destination is called. -/
def readerName : Destination → String
  | bucket _ => "S3ObjectReader"
  | logStream _ => "CloudWatchStreamReader"

/-- Reading a destination. -/
def read (b : RetryBudget Float) (w : World) : Destination → Stretch
  | bucket src => src.read b w
  | logStream src => src.read b w

end Destination

/-- A reader: a destination, how long throttled calls are repeated, and
the client that makes them. -/
structure Reader where
  destination : Destination
  budget : RetryBudget Float
  client : Client

namespace Reader

/-- The whole traversal of a reader. -/
def traverse (r : Reader) : Stretch := r.destination.read r.budget (World.start r.client)

/-- What is told of a traversal in the report, after these events. -/
def summary (r : Reader) (events : List Event) : List String :=
  match r.destination with
  | .bucket _ => ["Total object in S3:  " ++ toString (events.countP Event.isObject)]
  | .logStream _ => ["Total log event pages:  " ++ toString (events.countP Event.isPage)]

end Reader

/-- The state of a reader whose lines are pulled. -/
structure Session where
  reader : Reader
  /-- The handle that owns the traversal. -/
  owner : Option Nat
  /-- How many handles have been given out. -/
  handles : Nat
  /-- The handles that have ended, other than by owning. -/
  ended : List Nat
  /-- What has happened, latest first. -/
  passed : List Event
  /-- What will happen, if it is pulled. -/
  ahead : List Event
  /-- The fault at the end of it. -/
  fault : Option TraversalFault

/-- What a pull brings: lines, whether the end was reached, or a fault. -/
structure Pulled where
  lines : List Value
  ended : Bool
  fault : Option TraversalFault

namespace Session

/-- The session of a reader that nobody has pulled. -/
def start (r : Reader) : Session := ⟨r, none, 0, [], [], [], none⟩

/-- A new handle. -/
def obtain (s : Session) : Nat × Session := (s.handles, { s with handles := s.handles + 1 })

/-- Events up to and including the `n`-th line, latest first onto those
before; what is left, and how many lines are lacking. -/
def advance (seen : List Event) : Nat → List Event → List Event × List Event × Nat
  | 0, events => (seen, events, 0)
  | n + 1, [] => (seen, [], n + 1)
  | n + 1, e :: events => advance (e :: seen) (if e.isLine then n else n + 1) events

/-- The session after what is needed for `n` more lines, and what this
brings. -/
def pullOwned (s : Session) (n : Nat) : Pulled × Session :=
  let (seen, left, lacking) := advance [] n s.ahead
  let after := { s with passed := seen ++ s.passed, ahead := left }
  let lines := seen.reverse.filterMap Event.line?
  if lacking == 0 then (⟨lines, false, none⟩, after)
  else
    match s.fault with
    | some f => (⟨lines, false, some f⟩, { after with fault := none })
    | none => (⟨lines, true, none⟩, after)

/-- The session with a handle as the owner of the traversal, unless it has
an owner. -/
def own (s : Session) (handle : Nat) : Session :=
  match s.owner with
  | none =>
    let t := s.reader.traverse
    { s with owner := some handle, ahead := t.events, fault := t.fault }
  | some _ => s

/-- Pulling `n` lines through a handle of a session that has an owner. -/
def pullThrough (s : Session) (handle n : Nat) : Pulled × Session :=
  if s.owner == some handle then
    pullOwned s n
  else if s.ended.contains handle then
    (⟨[], true, none⟩, s)
  else
    (⟨[], false, some (.again s.reader.destination.readerName)⟩,
      { s with ended := handle :: s.ended })

/-- Pulling `n` lines through a handle. -/
def pull (s : Session) (handle n : Nat) : Pulled × Session :=
  if n == 0 then (⟨[], false, none⟩, s) else (s.own handle).pullThrough handle n

/-- Pulling all lines through a handle. -/
def drain (s : Session) (handle : Nat) : Pulled × Session :=
  let s := s.own handle
  s.pullThrough handle (s.ahead.length + 1)

/-- What has happened so far. -/
def history (s : Session) : List Event := s.passed.reverse

end Session

end DeliveryAudit
