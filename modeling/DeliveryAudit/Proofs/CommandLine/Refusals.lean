import DeliveryAudit.Proofs.CommandLine.Faults
import DeliveryAudit.Proofs.Settings.Order
/-!
# Settings that are refused

Where the settings of a run are not read or not accepted, the run ends before a
client is asked for: it makes no request, and nothing is printed
(`Program.quiet_of_unset`). Which fault of the settings is reported does not
depend on the others, but on the order of the checks alone
(`Program.reports_first_violation`).
-/

namespace DeliveryAudit

/-- **A run without settings**, and the fault for which it has none: the file
is not read, or what is read makes no settings. -/
inductive Run.Unset [Bounds] (o : RunOrder) (host : Host) : RunFault → Prop
  | unread {f : SettingsFile.Fault} (h : SettingsFile.read host.opener o.settingsPath = .error f) :
    Unset o host (.file f)
  | refused {file : SettingsFile} {f : Settings.Fault}
    (hread : SettingsFile.read host.opener o.settingsPath = .ok file)
    (h : Settings.ofSources host.environment (.mapping file.entries) = .error f) :
    Unset o host (.settings f)

/-- A run without settings has only read its file. -/
theorem Run.Unset.eq [Bounds] {o : RunOrder} {host : Host} {f : RunFault} (h : Unset o host f) :
    ∃ notices : List Notice, ofOrder o host = ⟨notices.map Event.logged, [], .error f⟩ := by
  cases h with
  | unread h =>
    rw [ofOrder, h]
    exact ⟨[], rfl⟩
  | @refused file f hread h =>
    simp only [ofOrder, hread, h]
    exact ⟨file.notices, rfl⟩

/-- What makes clients does not matter to a run without settings. -/
theorem Run.Unset.withClients [Bounds] {o : RunOrder} {host : Host} {f : RunFault}
    (h : Unset o host f) (make : ClientMaker) :
    ofOrder o { host with makeClient := make } = ofOrder o host := by
  cases h with
  | unread h => rw [ofOrder, ofOrder, h]
  | refused hread h => simp only [ofOrder, hread, h]

namespace Program

variable {words : List String} {host : Host} {a : Arguments} {f : RunFault}

/-- **A program that has done nothing** but read its settings: no client has
been asked for, no request has been made, no time has passed, and nothing is
printed. -/
structure Quiet (p : Program) : Prop where
  output : p.output = ""
  run : ∃ r, p.run = some r ∧ r.clientOrders = [] ∧ r.history.filterMap Event.request? = [] ∧
    r.history.filterMap Event.sleep? = []

variable [Bounds]

/-- **Without settings** the program does nothing, whatever would make a
client. It tells of the fault if this is a failure of what is checked, and
otherwise the fault escapes. -/
theorem quiet_of_unset (ha : Arguments.ofWords words = .ok a) (h : Run.Unset (orderOf a) host f) :
    Quiet (ofWords words host) ∧
    (if f.isFailure then Tells (ofWords words host) f
      else (ofWords words host).ending = .escaped f) ∧
    ∀ make, ofWords words { host with makeClient := make } = ofWords words host := by
  obtain ⟨notices, hrun⟩ := h.eq
  have hrequests : (notices.map Event.logged).filterMap Event.request? = [] := by
    rw [List.filterMap_map]
    exact List.filterMap_eq_nil_iff.2 fun _ _ => rfl
  have hsleeps : (notices.map Event.logged).filterMap Event.sleep? = [] := by
    rw [List.filterMap_map]
    exact List.filterMap_eq_nil_iff.2 fun _ _ => rfl
  have hprogram : ofWords words host = ofRun a.verbose (Run.ofOrder (orderOf a) host) := by
    rw [ofWords, ha]
  refine ⟨?_, ?_, fun make => ?_⟩
  · rw [hprogram, hrun]
    unfold ofRun
    dsimp only
    split
    · exact ⟨rfl, _, rfl, rfl, hrequests, hsleeps⟩
    · exact ⟨rfl, _, rfl, rfl, hrequests, hsleeps⟩
  · rw [hprogram, hrun]
    unfold ofRun
    dsimp only
    split
    · exact ⟨rfl, ⟨_, rfl⟩, rfl⟩
    · rfl
  · rw [hprogram, ofWords, ha, ← h.withClients make]

/-- **The first violation is reported**, before there is a client. Of all that
is wrong with an environment and a settings file, where no number overflows,
what the first check complains of is reported, whatever the others would find;
and where no check notices a violation, there are settings. A program whose
settings are not read or not accepted asks for no client, makes no request and
prints nothing. -/
theorem reports_first_violation {env : Environment} {file : Value} {entries : List (Value × Value)}
    (h : Settings.sections file = .ok entries)
    (hcast : ∀ t, ¬ Settings.Overflows t (Settings.effective env entries t)) :
    (∀ c, Settings.FirstNoticed env entries c → ∃ d f, Settings.Complains env entries c d ∧
      Settings.Raises d f ∧ Settings.ofSources env file = .error f) ∧
    ((∃ s, Settings.ofSources env file = .ok s) ↔ ∀ c, ¬ Settings.Noticed env entries c) ∧
    ∀ words host a f, Arguments.ofWords words = .ok a → Run.Unset (orderOf a) host f →
      Quiet (ofWords words host) ∧
      (if f.isFailure then Tells (ofWords words host) f
        else (ofWords words host).ending = .escaped f) ∧
      ∀ make, ofWords words { host with makeClient := make } = ofWords words host := by
  obtain ⟨hfirst, hnone⟩ := Settings.first_reported h hcast
  exact ⟨hfirst, hnone, fun _ _ _ _ ha hunset => quiet_of_unset ha hunset⟩

end Program

/-! ## Several faults

The bucket is empty, the log group is not set, the destination is not spelled
as a registered one, and two tunables are no numbers from zero on. -/

namespace Program.SeveralFaults

local instance : Bounds := .usual

/-- The environment with the faults. -/
def environment : Environment :=
  .ofList [("AWS_REGION", "us-east-1"), ("S3_BUCKET_NAME", ""), ("LOG_PREFIX", "stem"),
    ("DESTINATION", "S3"), ("RETRY_MAX_ATTEMPTS", "-1"), ("RECORD_ID_BASE", "soon")]

/-- A host with this environment and no settings file. -/
def faultyHost : Host where
  environment := environment
  opener _ := .error .notFound
  makeClient _ _ := .ok LogStream.ThreePages.client

theorem not_overflows (t : Tunable) :
    ¬ Settings.Overflows t (Settings.effective environment [] t) := by
  have heffective : Settings.effective environment [] t =
      if t = .maxAttempts then .ofString "-1" else if t = .recordBase then .ofString "soon"
      else t.usual := by
    cases t with
    | _ => rfl
  rw [heffective]
  cases t with
  | delay => exact Settings.not_overflows_of_manageable (Settings.manageable_usual _)
  | maxAttempts =>
    exact Settings.not_overflows_text fun n hn => by
      have hparsed : Tunable.toInteger (.ofString "-1") = .ok (-1) := rfl
      obtain rfl := Except.ok.inj (hparsed.symm.trans hn)
      exact Number.lt_middle (by decide)
  | maxDuration => exact Settings.not_overflows_of_manageable (Settings.manageable_usual _)
  | recordBase => exact Settings.not_overflows_text fun n hn => nomatch hn

/-- **The bucket is complained of**, and no client is asked for. -/
theorem reports_first_of_several :
    Settings.ofSources environment (.mapping []) = .error (.defect (.missing .bucket)) ∧
    Quiet (ofWords ["3", "30s"] faultyHost) ∧
    Tells (ofWords ["3", "30s"] faultyHost) (.settings (.defect (.missing .bucket))) := by
  have hfirst : Settings.FirstNoticed environment [] (.required .bucket) := by
    refine ⟨⟨.inr rfl, id⟩, [.required .region], _, rfl, fun b hb h => ?_⟩
    obtain rfl := List.mem_singleton.1 hb
    rcases h.1 with h | h
    · cases h
    · exact absurd (Option.some.inj h) (by decide)
  have hsections : Settings.sections (.mapping []) = .ok [] := rfl
  obtain ⟨hreported, -, hquiet⟩ := reports_first_violation hsections not_overflows
  obtain ⟨d, f, hd, hf, hfault⟩ := hreported _ hfirst
  cases hd
  cases hf
  have ha : Arguments.ofWords ["3", "30s"] = .ok ⟨3, .text "30s", none, false, by decide⟩ := rfl
  obtain ⟨hquiet, htells, -⟩ := hquiet ["3", "30s"] faultyHost _ _ ha (.refused rfl hfault)
  exact ⟨hfault, hquiet, htells⟩

end Program.SeveralFaults

end DeliveryAudit
