import DeliveryAudit.Record
import DeliveryAudit.Roster
/-!
# The tally of a delivery

A tally counts the delivered lines and flags their ids on a roster. Once
it is sealed it counts no more. An id that has been found before, or is
not on the roster, counts as a line only, which is how duplicates show.
-/

namespace DeliveryAudit

/-- The lines counted so far, and the roster they are checked against. -/
structure Tally where
  roster : Roster
  lines : Nat
  isSealed : Bool

namespace Tally

/-- The tally before the first line. -/
def start (r : Roster) : Tally := ⟨r, 0, false⟩

/-- The tally that counts no more. -/
def close (t : Tally) : Tally := ⟨t.roster, t.lines, true⟩

/-- The tally with one more line of this id; none if it is sealed. -/
def count? (t : Tally) (id : Text) : Option Tally :=
  if t.isSealed then none else some ⟨t.roster.mark id, t.lines + 1, t.isSealed⟩

/-- Why a stream of records is not counted to its end. -/
inductive Fault where
  | late
  | record (f : Record.Fault)

/-- The wording of a fault. -/
def Fault.message [Bounds] : Fault → String
  | late => "Cannot observe records after the state has been sealed"
  | record f => f.message

/-- The tally after a line without a record, and the fault that this is. A
fault that shows only once the line counts leaves it counted. -/
def fail (t : Tally) (f : Record.Fault) : Tally × Fault :=
  if f.isCounted then
    if t.isSealed then (t, .late) else (⟨t.roster, t.lines + 1, t.isSealed⟩, .record f)
  else
    (t, .record f)

/-- The tally with the records of a stream, up to the first one that is
not there or comes too late, and why it stopped. -/
def countAll (t : Tally) : List (Except Record.Fault Record) → Tally × Option Fault
  | [] => (t, none)
  | .error f :: _ => ((t.fail f).1, some (t.fail f).2)
  | .ok r :: rest =>
    match t.count? r.id with
    | none => (t, some .late)
    | some t => countAll t rest

end Tally

end DeliveryAudit
