import DeliveryAudit.Notice
import DeliveryAudit.Settings.Opening
import DeliveryAudit.Yaml.Document
/-!
# Settings files

A settings file is a YAML document that holds a mapping, or nothing. It
may be left out altogether.
-/

namespace DeliveryAudit

/-- What is read from a settings file, and what is said about it. -/
structure SettingsFile where
  entries : List (Value × Value)
  notices : List Notice

namespace SettingsFile

/-- Why a settings file is not read. -/
inductive Fault where
  | unopened (path : String) (f : OpenFault)
  | yaml (path : String) (f : Yaml.Fault)
  | noMapping (path : String)

/-- The wording of a fault. -/
def Fault.message : Fault → String
  | unopened path .notFound => "Config file not found: " ++ path
  | unopened path f => f.message path
  | yaml path (.complaint c) => "Invalid YAML in " ++ path ++ ": " ++ c.message path
  | yaml path (.character code position) =>
    "Invalid YAML in " ++ path ++ ": " ++ (Yaml.Fault.character code position).message path
  | yaml path f => f.message path
  | noMapping path => "Config file " ++ path ++ " must contain a mapping"

/-- The settings file that is left out. -/
def absent : SettingsFile := ⟨[], []⟩

/-- The notice on a settings file that has been read. -/
def notice (path : String) : Notice := ⟨.info, .settings, "Loaded YAML config from " ++ path⟩

/-- The entries of a document. Any empty value has none. -/
def entriesOf (path : String) (v : Value) : Except Fault (List (Value × Value)) :=
  match v.entries? with
  | some entries => .ok entries
  | none => if v.isTruthy then .error (.noMapping path) else .ok []

variable [Bounds]

/-- The settings file with these bytes. -/
def ofBytes (path : String) (bytes : List UInt8) : Except Fault SettingsFile :=
  match Yaml.read bytes with
  | .error f => .error (.yaml path f)
  | .ok v =>
    match entriesOf path v with
    | .error f => .error f
    | .ok entries => .ok ⟨entries, [notice path]⟩

/-- The settings file at a path. Without a path, or with an empty one, it
is left out. -/
def read (opener : Opener) : Option String → Except Fault SettingsFile
  | none => .ok absent
  | some path =>
    if path.isEmpty then
      .ok absent
    else
      match opener path with
      | .ok bytes => ofBytes path bytes
      | .error f => .error (.unopened path f)

end SettingsFile

end DeliveryAudit
