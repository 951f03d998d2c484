import DeliveryAudit.Destination.Fault
/-!
# Stretches of a traversal

While a destination is read, requests are made, time is slept away,
notices are given, and lines come in. A stretch is a part of this: its
events in order, the fault that ends it, if one does, and the state it
leaves behind. Stretches are joined by `andThen`, and nothing follows a
fault.
-/

namespace DeliveryAudit

/-- What happens while a destination is read. -/
inductive Event where
  | called (r : Request)
  | slept (seconds : Float)
  | logged (n : Notice)
  /-- A page has been answered. -/
  | page
  /-- An object has been answered. -/
  | object
  /-- A line has been handed out. -/
  | line (v : Value)

namespace Event

/-- The line that an event hands out. -/
def line? : Event → Option Value
  | line v => some v
  | _ => none

/-- The request that an event is. -/
def request? : Event → Option Request
  | called r => some r
  | _ => none

/-- The seconds that an event sleeps. -/
def sleep? : Event → Option Float
  | slept s => some s
  | _ => none

/-- The notice that an event is. -/
def notice? : Event → Option Notice
  | logged n => some n
  | _ => none

/-- Whether an event is the answer of a page. -/
def isPage : Event → Bool
  | page => true
  | _ => false

/-- Whether an event is the answer of an object. -/
def isObject : Event → Bool
  | object => true
  | _ => false

/-- Whether an event hands out a line. -/
def isLine : Event → Bool
  | line _ => true
  | _ => false

end Event

/-- What a traversal goes on with: the answers to come, the time, and how
many pages and objects have been answered. -/
structure World where
  client : Client
  clock : Float
  pages : Nat
  objects : Nat

/-- The state before the first request. -/
def World.start (c : Client) : World := ⟨c, 0.0, 0, 0⟩

/-- A part of a traversal. -/
structure Stretch where
  events : List Event
  fault : Option TraversalFault
  world : World

namespace Stretch

/-- Nothing happens. -/
def none (w : World) : Stretch := ⟨[], .none, w⟩

/-- The traversal ends. -/
def stop (f : TraversalFault) (w : World) : Stretch := ⟨[], some f, w⟩

/-- These events happen. -/
def happen (events : List Event) (w : World) : Stretch := ⟨events, .none, w⟩

/-- A stretch and what follows it, unless it ends with a fault. -/
def andThen (s : Stretch) (next : World → Stretch) : Stretch :=
  match s.fault with
  | some _ => s
  | .none =>
    let t := next s.world
    ⟨s.events ++ t.events, t.fault, t.world⟩

/-- A notice of the reader. -/
def note (level : Level) (text : String) : Event := .logged ⟨level, .reader, text⟩

/-- What a settled call looks like: the request, and for each repetition
a notice, a delay and the request again. -/
def attemptEvents (b : RetryBudget Float) (description : String) (r : Request) (attempts : Nat) :
    List Event :=
  .called r :: (List.range (attempts - 1)).flatMap fun i =>
    [.logged (Settlement.notice b description (i + 1)), .slept b.delay, .called r]

/-- The fault of a verdict that is no value. -/
def faultOf {α : Type} (description : String) (attempts : Nat) :
    Verdict Float α → Option TraversalFault
  | .value _ => .none
  | .failed e => some (.destination (.call (.failed description e)))
  | .gaveUp elapsed e => some (.destination (.call (.gaveUp description attempts elapsed e)))
  | .foreign e => some (.foreign e)
  | .unhashable kind => some (.shape (.unhashable kind))
  | .unsettled => some .unsettled

variable [Bounds]

/-- A call, and what follows its value. `leave` is the client with the
answers that the call leaves. -/
def call {α : Type} (b : RetryBudget Float) (description : String) (r : Request) (w : World)
    (script : Script α) (leave : List (Answer Float α) → Client)
    (next : α → World → Stretch) : Stretch :=
  let s := Settlement.settle b w.clock script.answers script.last
  let after : World := { w with client := leave s.left, clock := s.clock }
  let made := happen (attemptEvents b description r s.attempts) after
  made.andThen fun w =>
    match s.verdict with
    | .value a => next a w
    | v => ⟨[], faultOf description s.attempts v, w⟩

/-- The members of an answer, which has to be a mapping. -/
def members? : Value → Except TraversalFault (List (Value × Value))
  | .mapping entries => .ok entries
  | v => .error (.shape (.noMembers v.kindName))

/-- The parts of a value that stands for a list. -/
def parts? : Value → Except TraversalFault (List Value)
  | .list items => .ok items
  | .text t => .ok (t.map fun p => .text [p])
  | .mapping entries => .ok (entries.map Prod.fst)
  | v => .error (.shape (.noParts v.kindName))

end Stretch

end DeliveryAudit
