import DeliveryAudit.CommandLine.Arguments
import DeliveryAudit.Run
/-!
# The program

The program reads its arguments, runs, and prints the report. A failure of
what is checked is told of on one line and ends the program with code 1;
notices are written as they come, those for debugging only if they are
asked for.
-/

namespace DeliveryAudit

/-- What is written to the error stream: a notice, or plain text. -/
inductive ErrorOutput where
  | notice (n : Notice)
  | text (s : String)

namespace ErrorOutput

/-- What is written, at this time. -/
def display (time : String) : ErrorOutput → String
  | notice n => time ++ " [" ++ n.level.text ++ "] " ++ n.speaker.name ++ " — " ++ n.text ++ "\n"
  | text s => s

end ErrorOutput

/-- How the program ends. -/
inductive Ending where
  /-- It comes to its end. -/
  | returned (code : Nat)
  /-- It stops at its arguments. -/
  | stopped (code : Nat)
  | escaped (f : RunFault)

namespace Ending

/-- The ending of the program as a process of its own: it always stops,
unless a fault escapes that is no interrupt. -/
def asProcess : Ending → Ending
  | returned code => stopped code
  | stopped code => stopped code
  | escaped f => if f.isInterrupt then stopped 130 else escaped f

end Ending

/-- What the program has done: what it has written, how it ended, and the
run, if there was one. -/
structure Program where
  output : String
  errors : List ErrorOutput
  ending : Ending
  run : Option Run

namespace Program

/-- What stands in front of a failure. -/
def failureMarker : String := "[TEST FAILURE]"

/-- What a run writes to the error stream. -/
def noticesOf (verbose : Bool) (r : Run) : List ErrorOutput :=
  ((r.history.filterMap Event.notice?).filter fun n => verbose || n.level != .debug).map .notice

/-- The program that stops before it runs. -/
def stopAt (code : Nat) (output : String) (errors : List ErrorOutput) : Program :=
  ⟨output, errors, .stopped code, none⟩

/-- What the program makes of a run. -/
def ofRun [Bounds] (verbose : Bool) (r : Run) : Program :=
  let notices := noticesOf verbose r
  match r.outcome with
  | .ok report => ⟨report ++ "\n", notices, .returned 0, some r⟩
  | .error f =>
    if f.isFailure then
      ⟨"", notices ++ [.text (failureMarker ++ " " ++ f.message ++ "\n")], .returned 1, some r⟩
    else
      ⟨"", notices, .escaped f, some r⟩

/-- The run that the arguments ask for. -/
def orderOf (a : Arguments) : RunOrder :=
  ⟨a.totalRecords, a.logDelay.display, a.config.bind Given.text?⟩

/-- The program, called with these words. -/
def ofWords [Bounds] (words : List String) (host : Host) : Program :=
  match Arguments.ofWords words with
  | .error .help => stopAt 0 Arguments.help []
  | .error (.usage f) => stopAt 2 "" [.text f.report]
  | .ok a => ofRun a.verbose (Run.ofOrder (orderOf a) host)

/-- All that the program writes to the error stream, where every notice
has this time. -/
def errorText (time : String) (p : Program) : String :=
  String.join (p.errors.map (ErrorOutput.display time))

end Program

end DeliveryAudit
