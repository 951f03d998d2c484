import DeliveryAudit.Destination.Session
import DeliveryAudit.Tally
/-!
# Audits

An audit reads a destination to its end, takes the record out of every
line, and counts it against the roster. It tells of its progress every
ten thousand lines. The first line without a record ends it, and so does
a fault of the traversal; what would have happened after that does not
happen.
-/

namespace DeliveryAudit

/-- Why an audit ends before its time. -/
inductive AuditFault where
  | traversal (f : TraversalFault)
  | tally (f : Tally.Fault)

/-- The wording of the end of an audit. -/
def AuditFault.message [Bounds] : AuditFault → String
  | traversal f => f.message
  | tally f => f.message

/-- An audit that has ended: the tally, what has happened, in order, and
the fault that ended it, if one did. -/
structure Audit where
  tally : Tally
  history : List Event
  fault : Option AuditFault

namespace Audit

/-- The number of lines between two notices of progress. -/
def stride : Nat := 10000

/-- How many missing ids are told of. -/
def sampleSize : Nat := 10

/-- A notice of the audit. -/
def note (level : Level) (text : String) : Event := .logged ⟨level, .audit, text⟩

/-- The notice of progress that the `n`-th line brings. -/
def progress (n : Nat) : List Event :=
  if n % stride = 0 then [note .debug ("Processed " ++ toString n ++ " lines")] else []

/-- The notices at the end of an audit. -/
def closing (t : Tally) : List Event :=
  let missing := t.roster.missing
  let total := note .info ("Reconciled " ++ toString t.lines ++
    " delivered lines against " ++ toString t.roster.size ++ " expected records")
  if missing.isEmpty then [total]
  else
    [total, note .debug (toString missing.length ++ " records never arrived, first ids: " ++
      ", ".intercalate ((missing.take sampleSize).map Text.shown))]

variable [Bounds]

/-- Following a traversal: its lines are counted onto a tally, and what
happens is put onto what has passed, latest first. -/
def follow (enveloped : Bool) : List Event → Tally → List Event →
    Tally × List Event × Option Tally.Fault
  | [], t, passed => (t, passed, none)
  | .line v :: rest, t, passed =>
    -- The line is counted on its way in, even if it holds no record.
    let passed := progress (t.lines + 1) ++ .line v :: passed
    match Record.ofLine enveloped v with
    | .error f => ((t.fail f).1, passed, some (t.fail f).2)
    | .ok r =>
      match t.count? r.id with
      | none => (t, passed, some .late)
      | some t => follow enveloped rest t passed
  | e :: rest, t, passed => follow enveloped rest t (e :: passed)

/-- The audit of a traversal. -/
def ofTraversal (enveloped : Bool) (s : Stretch) (roster : Roster) : Audit :=
  match follow enveloped s.events (Tally.start roster) [] with
  | (t, passed, some f) => ⟨t, passed.reverse, some (.tally f)⟩
  | (t, passed, none) =>
    match s.fault with
    | some f => ⟨t, passed.reverse, some (.traversal f)⟩
    | none => ⟨t.close, passed.reverse ++ closing t.close, none⟩

/-- The audit of what a reader reads. -/
def run (r : Reader) (roster : Roster) : Audit :=
  ofTraversal r.destination.enveloped r.traverse roster

end Audit

end DeliveryAudit
