import DeliveryAudit.Proofs.CommandLine.Refusals
import DeliveryAudit.Proofs.Yaml.Causes
/-!
# Settings files that are not read

A settings file gives a mapping, or the program tells what is wrong with it.
The exceptions are few (`SettingsFile.Escapes`): a path that cannot be opened
for another reason than that nothing is there, and bytes that cannot be read
although nothing complains of them. Only there the fault escapes
(`Program.tells_unless_escapes`).
-/

namespace DeliveryAudit

namespace SettingsFile

variable {opener : Opener} {path : String} {f : Fault}
variable [Bounds]

/-- **What a settings file holds**: nothing, where it is left out or its
document is empty or zero, and otherwise the mapping that its document is. -/
inductive Holds (opener : Opener) : Option String → SettingsFile → Prop
  | leftOut : Holds opener none absent
  | unnamed {path : String} : path.isEmpty = true → Holds opener (some path) absent
  | empty {path : String} {bytes : List UInt8} {v : Value} : opener path = .ok bytes →
    Yaml.read bytes = .ok v → v.isTruthy = false → Holds opener (some path) ⟨[], [notice path]⟩
  | mapping {path : String} {bytes : List UInt8} {v : Value} {entries : List (Value × Value)} :
    opener path = .ok bytes → Yaml.read bytes = .ok v → v.entries? = some entries →
    Holds opener (some path) ⟨entries, [notice path]⟩

/-- **The faults that escape**: a path is not opened although something else is
wrong than that nothing is there, or bytes are not read although nothing
complains of them. -/
inductive Escapes (opener : Opener) : Option String → Fault → Prop
  | unopened {path : String} {f : OpenFault} : opener path = .error f → f ≠ .notFound →
    Escapes opener (some path) (.unopened path f)
  | unread {path : String} {bytes : List UInt8} {f : Yaml.Fault} : opener path = .ok bytes →
    Yaml.Unforeseen bytes f → Escapes opener (some path) (.yaml path f)

/-- Nothing that escapes is a failure of what is checked. -/
theorem Escapes.not_isFailure {path : Option String} (h : Escapes opener path f) :
    (RunFault.file f).isFailure = false := by
  cases h with
  | @unopened path f _ hf =>
    cases f with
    | notFound => exact absurd rfl hf
    | _ => rfl
  | unread _ h =>
    cases h with
    | _ => rfl

/-- The document of a settings file is a mapping, or empty or zero, or neither. -/
theorem holds_or_noMapping {bytes : List UInt8} {v : Value} (hopen : opener path = .ok bytes)
    (hread : Yaml.read bytes = .ok v) :
    (∃ file, ofBytes path bytes = .ok file ∧ Holds opener (some path) file) ∨
      ofBytes path bytes = .error (.noMapping path) := by
  simp only [ofBytes, hread, entriesOf]
  cases hentries : v.entries? with
  | some entries => exact .inl ⟨_, rfl, .mapping hopen hread hentries⟩
  | none =>
    cases htruthy : v.isTruthy with
    | true => exact .inr rfl
    | false => exact .inl ⟨_, rfl, .empty hopen hread htruthy⟩

/-- **A settings file is read, or it is not**, and what is wrong then is a
failure of what is checked or escapes. -/
theorem holds_or_fails (opener : Opener) (path : Option String) :
    (∃ file, read opener path = .ok file ∧ Holds opener path file) ∨
    (∃ f, read opener path = .error f ∧ (RunFault.file f).isFailure = true) ∨
    ∃ f, read opener path = .error f ∧ Escapes opener path f := by
  cases path with
  | none => exact .inl ⟨_, rfl, .leftOut⟩
  | some path =>
    rw [read]
    cases hpath : path.isEmpty with
    | true => exact .inl ⟨_, rfl, .unnamed hpath⟩
    | false =>
      cases hopen : opener path with
      | error f =>
        by_cases hf : f = .notFound
        · exact .inr (.inl ⟨_, rfl, hf ▸ rfl⟩)
        · exact .inr (.inr ⟨_, rfl, .unopened hopen hf⟩)
      | ok bytes =>
        cases hread : Yaml.read bytes with
        | error f =>
          have hbytes : ofBytes path bytes = .error (.yaml path f) := by rw [ofBytes, hread]
          rcases Yaml.cause_of_read hread with (⟨c, rfl⟩ | ⟨code, position, rfl⟩) | hf
          · exact .inr (.inl ⟨_, hbytes, rfl⟩)
          · exact .inr (.inl ⟨_, hbytes, rfl⟩)
          · exact .inr (.inr ⟨_, hbytes, .unread hopen hf⟩)
        | ok v =>
          rcases holds_or_noMapping hopen hread with hholds | hnone
          · exact .inl hholds
          · exact .inr (.inl ⟨_, hnone, rfl⟩)

end SettingsFile

namespace Program

variable {words : List String} {host : Host} {a : Arguments} {f : SettingsFile.Fault}
variable [Bounds]

/-- What a program makes of a settings file that is not read. -/
theorem ending_of_unread (ha : Arguments.ofWords words = .ok a)
    (hf : SettingsFile.read host.opener (orderOf a).settingsPath = .error f) :
    if (RunFault.file f).isFailure then Tells (ofWords words host) (.file f)
      else (ofWords words host).ending = .escaped (.file f) :=
  (quiet_of_unset ha (.unread hf)).2.1

/-- **A settings file that is not read is told of, unless the fault escapes.**
For every path and all bytes, a settings file holds a mapping, or what is wrong
is a failure of what is checked, or one of the faults that escape. The program
prints the failure and ends with code 1, unless the fault is one of those: then
it ends with the fault. -/
theorem tells_unless_escapes (host : Host) (path : Option String) :
    ((∃ file, SettingsFile.read host.opener path = .ok file ∧
        SettingsFile.Holds host.opener path file) ∨
      (∃ f, SettingsFile.read host.opener path = .error f ∧ (RunFault.file f).isFailure = true) ∨
      ∃ f, SettingsFile.read host.opener path = .error f ∧
        SettingsFile.Escapes host.opener path f) ∧
    ∀ words a f, Arguments.ofWords words = .ok a → (orderOf a).settingsPath = path →
      SettingsFile.read host.opener path = .error f →
      (¬ SettingsFile.Escapes host.opener path f → Tells (ofWords words host) (.file f)) ∧
      (SettingsFile.Escapes host.opener path f →
        (ofWords words host).ending = .escaped (.file f)) := by
  have hcases := SettingsFile.holds_or_fails host.opener path
  refine ⟨hcases, ?_⟩
  rintro words a f ha rfl hf
  have hending := ending_of_unread ha hf
  constructor
  · intro hescapes
    rcases hcases with ⟨file, hread, -⟩ | ⟨g, hread, hfailure⟩ | ⟨g, hread, hg⟩
    · cases hf.symm.trans hread
    · cases hf.symm.trans hread
      rwa [if_pos hfailure] at hending
    · cases hf.symm.trans hread
      exact absurd hg hescapes
  · intro hescapes
    rwa [hescapes.not_isFailure, if_neg Bool.false_ne_true] at hending

end Program

/-! ## Three files

A settings file is a bracket that is not closed, a byte that starts no
character, or a number in base two without a digit. -/

namespace Program.BadFiles

local instance : Bounds := .usual

/-- The file of a bracket that is not closed. -/
def bracket : List UInt8 := [0x5B]

/-- The file of a byte that starts no character. -/
def strayByte : List UInt8 := [0xFF]

/-- The file of a number in base two without a digit. -/
def noDigits : List UInt8 := [0x30, 0x62, 0x5F]

/-- The words that name the settings file. -/
def commandLine : List String := ["3", "30s", "--config", "c.yaml"]

/-- The arguments in them. -/
def given : Arguments := ⟨3, .text "30s", some (.text "c.yaml"), false, by decide⟩

theorem ofWords_commandLine : Arguments.ofWords commandLine = .ok given := by
  rfl

/-- A host where every path opens a file of these bytes. -/
def hostOf (bytes : List UInt8) : Host where
  environment := .ofList []
  opener _ := .ok bytes
  makeClient _ _ := .ok LogStream.ThreePages.client

/-- The complaint about the bracket. -/
def complaint : Yaml.Complaint where
  activity := some .flowNode
  since := some ⟨1, 0, 1⟩
  problem := .expectedToken "the node content" "<stream end>"
  mark := ⟨1, 0, 1⟩

theorem read_bracket : Yaml.read bracket = .error (.complaint complaint) := by
  decide +kernel

theorem read_strayByte : Yaml.read strayByte = .error (.undecodable ⟨0, 1, 0xFF, .start⟩) := by
  decide +kernel

theorem read_noDigits : Yaml.read noDigits = .error (.scalar (.integer 2 [])) := by
  decide +kernel

theorem readFile_of_read {bytes : List UInt8} {f : Yaml.Fault} (h : Yaml.read bytes = .error f) :
    SettingsFile.read (hostOf bytes).opener (some "c.yaml") = .error (.yaml "c.yaml" f) := by
  change SettingsFile.ofBytes "c.yaml" bytes = _
  rw [SettingsFile.ofBytes, h]

/-- **The bracket is told of**, and the byte escapes. -/
theorem tells_of_bracket :
    Tells (ofWords commandLine (hostOf bracket)) (.file (.yaml "c.yaml" (.complaint complaint))) ∧
    (ofWords commandLine (hostOf strayByte)).ending =
      .escaped (.file (.yaml "c.yaml" (.undecodable ⟨0, 1, 0xFF, .start⟩))) := by
  have hstep : Utf8.step 0xFF [] = .bad 1 .start := rfl
  have hbyte : SettingsFile.Escapes (hostOf strayByte).opener (some "c.yaml")
      (.yaml "c.yaml" (.undecodable ⟨0, 1, 0xFF, .start⟩)) :=
    .unread rfl (.undecodable (Utf8.ne_encode_of_step hstep []))
  obtain ⟨htells, -⟩ := (tells_unless_escapes (hostOf bracket) (some "c.yaml")).2 _ _ _
    ofWords_commandLine rfl (readFile_of_read read_bracket)
  obtain ⟨-, hescapes⟩ := (tells_unless_escapes (hostOf strayByte) (some "c.yaml")).2 _ _ _
    ofWords_commandLine rfl (readFile_of_read read_strayByte)
  exact ⟨htells fun h => Bool.noConfusion h.not_isFailure, hescapes hbyte⟩

/-- **Neither the byte nor the number is told of**: what is wrong with these
files is no failure of what is checked, and escapes the program. -/
theorem escapes_of_byte_and_number :
    SettingsFile.read (hostOf strayByte).opener (some "c.yaml") =
      .error (.yaml "c.yaml" (.undecodable ⟨0, 1, 0xFF, .start⟩)) ∧
    (ofWords commandLine (hostOf strayByte)).ending =
      .escaped (.file (.yaml "c.yaml" (.undecodable ⟨0, 1, 0xFF, .start⟩))) ∧
    SettingsFile.read (hostOf noDigits).opener (some "c.yaml") =
      .error (.yaml "c.yaml" (.scalar (.integer 2 []))) ∧
    (ofWords commandLine (hostOf noDigits)).ending =
      .escaped (.file (.yaml "c.yaml" (.scalar (.integer 2 [])))) :=
  ⟨readFile_of_read read_strayByte,
    ending_of_unread ofWords_commandLine (readFile_of_read read_strayByte),
    readFile_of_read read_noDigits,
    ending_of_unread ofWords_commandLine (readFile_of_read read_noDigits)⟩

end Program.BadFiles

end DeliveryAudit
