import DeliveryAudit.CommandLine.Program
import Std.Time.Format
import Std.Time.Zoned
/-!
# The entry point

The program with the environment, the files and the time of the machine
that it runs on. It has no credentials for any service.
-/

open DeliveryAudit

instance : Bounds := .usual

/-- The variables of the environment that the settings name. -/
def readEnvironment : IO Environment := do
  let names :=
    [Settings.Required.region, .bucket, .logGroup, .stem, .destination].map
      Settings.Required.variableName ++
    [Tunable.delay, .maxAttempts, .maxDuration, .recordBase].map Tunable.variableName
  let entries ← names.filterMapM fun name => do
    return (← IO.getEnv name).map fun value => (name, value)
  return .ofList entries

/-- The file at a path, or the fault in opening it. -/
def readFile (path : String) : IO (Except OpenFault (List UInt8)) := do
  if path.toList.contains '\x00' then
    return .error .zero
  try
    return .ok (← IO.FS.readBinFile path).toList
  catch e =>
    match e with
    | .noFileOrDirectory .. => return .error .notFound
    | .inappropriateType _ 21 _ => return .error .isFolder
    | .inappropriateType .. => return .error .notFolder
    | .invalidArgument .. => return .error .nameTooLong
    | e => return .error (.other (toString e))

/-- What opens the settings file that the words of the command line
name. -/
def readOpener (words : List String) : IO Opener := do
  match Arguments.ofWords words with
  | .ok a =>
    match (Program.orderOf a).settingsPath with
    | some path => do
      let contents ← readFile path
      return fun _ => contents
    | none => return fun _ => .error .notFound
  | .error _ => return fun _ => .error .notFound

/-- The time of the machine, as notices show it. -/
def timeText : IO String := do
  let now ← Std.Time.PlainDateTime.now
  return now.format "uuuu-MM-dd HH:mm:ss,SSS"

/-- The program as a process: its output, its errors, and its exit code. -/
def main (words : List String) : IO UInt32 := do
  let host : Host := ⟨← readEnvironment, ← readOpener words, ClientMaker.withoutCredentials⟩
  let program := Program.ofWords words host
  IO.eprint (program.errorText (← timeText))
  IO.print program.output
  match program.ending.asProcess with
  | .returned code => return UInt32.ofNat code
  | .stopped code => return UInt32.ofNat code
  | .escaped f =>
    IO.eprintln f.message
    return 1
