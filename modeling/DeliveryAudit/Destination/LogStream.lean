import DeliveryAudit.Destination.Stretch
/-!
# Reading a log stream

A log stream is read forward from its head, page by page. Every page
carries a token for the next one, and the stream ends when the token that
comes back is the one that was sent. Messages that are empty do not
count.
-/

namespace DeliveryAudit

/-- A stream in a group of log streams. -/
structure LogStream where
  group : String
  stream : String

namespace LogStream

/-- Whether a value has members. -/
def hasMembers : Value → Bool
  | .mapping _ => true
  | _ => false

/-- The line that an event of the stream hands out, if it has a
message. -/
def lineOf? : Value → Option Value
  | .mapping entries =>
    match Value.entry? "message" entries with
    | some m => if m.isTruthy then some m else none
    | none => none
  | _ => none

/-- The lines of the events of a page, up to the first that has no
members. -/
def pageLines (events : List Value) : List Value := (events.takeWhile hasMembers).filterMap lineOf?

/-- The fault of the first event of a page that has no members. -/
def pageFault (events : List Value) : Option TraversalFault :=
  (events.find? fun v => !hasMembers v).map fun v => .shape (.noMembers v.kindName)

/-- The events of a page. -/
def events (page : List (Value × Value)) : Except TraversalFault (List Value) :=
  Stretch.parts? ((Value.entry? "events" page).getD (.list []))

/-- What comes after a page that was asked for with a token: the token of
the next one, or nothing. -/
def continuation (src : LogStream) (sent : Option Value) (page : List (Value × Value)) :
    Except TraversalFault (Option Value) :=
  let token := (Value.entry? "nextForwardToken" page).getD .null
  -- Nothing was sent for the first page, so it is never the last.
  if !token.isTruthy then .error (.destination (.noForwardToken src.group))
  else if sent.any token.same then .ok none
  else .ok (some token)

/-- Reading what a page says, after so many lines. -/
def readPage (src : LogStream) (sent : Option Value) (lines : Nat)
    (next : Value → Nat → World → Stretch) (page : List (Value × Value)) (w : World) : Stretch :=
  match events page with
  | .error f => Stretch.stop f w
  | .ok found =>
    let ls := pageLines found
    let note := Stretch.note .debug ("Log event page " ++ toString w.pages ++ ": " ++
      toString found.length ++ " events")
    let read : Stretch := ⟨note :: ls.map Event.line, pageFault found, w⟩
    read.andThen fun w =>
      match continuation src sent page with
      | .error f => Stretch.stop f w
      | .ok (some token) => next token (lines + ls.length) w
      | .ok none =>
        Stretch.happen [Stretch.note .info ("Read " ++ toString (lines + ls.length) ++
          " events from " ++ src.group ++ "/" ++ src.stream ++ " in " ++ toString w.pages ++
          " pages")] w

/-- Reading the answer to a request for a page, which counts as a page
whatever it is. -/
def readAnswer (src : LogStream) (sent : Option Value) (lines : Nat)
    (next : Value → Nat → World → Stretch) (answer : Value) (w : World) : Stretch :=
  (Stretch.happen [.page] { w with pages := w.pages + 1 }).andThen fun w =>
    match Stretch.members? answer with
    | .error f => Stretch.stop f w
    | .ok page => readPage src sent lines next page w

variable [Bounds]

/-- Reading the pages from a token on. Every page uses up an answer, so
that the number of answers is budget enough. -/
def readPages (b : RetryBudget Float) (src : LogStream) :
    Nat → Option Value → Nat → World → Stretch
  | 0, _, _, w => Stretch.stop .unsettled w
  | budget + 1, token, lines, w =>
    Stretch.call b ("get the log events from log group " ++ quoted src.group)
      (.getLogEvents src.group src.stream token) w w.client.eventScript
      (fun left => { w.client with events := left })
      (readAnswer src token lines fun token lines w =>
        readPages b src budget (some token) lines w)

/-- Reading a log stream. -/
def read (b : RetryBudget Float) (src : LogStream) (w : World) : Stretch :=
  readPages b src (w.client.events.length + 1) none 0 w

end LogStream

end DeliveryAudit
