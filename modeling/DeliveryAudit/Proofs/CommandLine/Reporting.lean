import DeliveryAudit.CommandLine.Program
import DeliveryAudit.Proofs.CommandLine.Operands
import DeliveryAudit.Proofs.Run.Completion
/-!
# What the program reports

The program prints a report on a complete run only, and the report starts
from the operands of its command line (`reports_complete_runs`). A failure
of what is checked is the last thing that it writes, and then it prints
nothing.
-/

namespace DeliveryAudit

namespace Program

/-! ## Endings -/

/-- What is written last stands at the end of all that is written. -/
theorem errorText_append {p : Program} {notices : List ErrorOutput} {text : String}
    (h : p.errors = notices ++ [.text text]) (time : String) :
    p.errorText time = String.join (notices.map (ErrorOutput.display time)) ++ text := by
  rw [errorText, h, List.map_append, String.join_append]
  exact congrArg _ (String.empty_append)

variable [Bounds]

/-- **What the program makes of a run**: it prints the report and returns
0, it tells of a failure and returns 1, or a fault escapes. -/
theorem ofRun_cases (verbose : Bool) (r : Run) :
    (∃ text, r.outcome = .ok text ∧
      ofRun verbose r = ⟨text ++ "\n", noticesOf verbose r, .returned 0, some r⟩) ∨
    (∃ f, r.outcome = .error f ∧ f.isFailure = true ∧
      ofRun verbose r = ⟨"", noticesOf verbose r ++
        [.text ("[TEST FAILURE] " ++ f.message ++ "\n")], .returned 1, some r⟩) ∨
    ∃ f, r.outcome = .error f ∧
      ofRun verbose r = ⟨"", noticesOf verbose r, .escaped f, some r⟩ := by
  unfold ofRun
  cases r.outcome with
  | ok text => exact .inl ⟨text, rfl, rfl⟩
  | error f =>
    cases hf : f.isFailure with
    | true => exact .inr (.inl ⟨f, rfl, hf, by simp only [hf, if_true]; rfl⟩)
    | false => exact .inr (.inr ⟨f, rfl, by simp only [hf, Bool.false_eq_true, if_false]⟩)

/-- **What the program makes of its words**: it runs with the arguments in
them, or it stops before. -/
theorem ofWords_cases (words : List String) (host : Host) :
    (∃ a, Arguments.ofWords words = .ok a ∧
      ofWords words host = ofRun a.verbose (Run.ofOrder (orderOf a) host)) ∨
    ∃ code output errors, ofWords words host = stopAt code output errors := by
  unfold ofWords
  cases Arguments.ofWords words with
  | ok a => exact .inl ⟨a, rfl, rfl⟩
  | error stop =>
    cases stop with
    | help => exact .inr ⟨_, _, _, rfl⟩
    | usage f => exact .inr ⟨_, _, _, rfl⟩

/-- **Reports are on complete runs.** If the program returns 0, it has
printed just the report on a complete run: of as many records as the first
operand says, with the delay that the second one gives, unless that is the
divider. If it returns 1, it has printed nothing, and the wording of the
failure is the last that it has written. However else a run ends, nothing
is printed. -/
theorem reports_complete_runs (words : List String) (host : Host) :
    let p := ofWords words host
    (p.ending = .returned 0 → ∃ a ws count delay, ∃ run : CompleteRun (orderOf a) host,
      Arguments.ofWords words = .ok a ∧ Role.ofWords words = .ok ws ∧
      Arguments.operands ws = [count, delay] ∧
      Number.integer 10 (Text.ofString count) = .ok run.report.totalInput ∧
      (run.report.logDelay = delay ∨ delay = Role.dividerWord ∧ run.report.logDelay = "[]") ∧
      p.output = "\n".intercalate run.report.written ++ "\n") ∧
    (p.ending = .returned 1 → p.output = "" ∧ ∃ f r notices, p.run = some r ∧
      r.outcome = .error f ∧ f.isFailure = true ∧
      p.errors = notices ++ [.text ("[TEST FAILURE] " ++ f.message ++ "\n")] ∧
      ∀ time, ∃ before, p.errorText time =
        before ++ ("[TEST FAILURE] " ++ f.message ++ "\n")) ∧
    (p.run.isSome → p.ending ≠ .returned 0 → p.output = "") := by
  intro p
  rcases ofWords_cases words host with ⟨a, ha, hp⟩ | ⟨code, output, errors, hp⟩
  · change p = _ at hp
    rcases ofRun_cases a.verbose (Run.ofOrder (orderOf a) host) with
      ⟨text, houtcome, heq⟩ | ⟨f, houtcome, hfailure, heq⟩ | ⟨f, -, heq⟩
    · rw [hp, heq]
      refine ⟨fun _ => ?_, nofun, fun _ h => absurd rfl h⟩
      obtain ⟨run, rfl⟩ := Run.exists_completeRun houtcome
      obtain ⟨ws, count, delay, hroles, hoperands, hcount, -, hdelay⟩ :=
        Arguments.operands_of_ofWords ha
      refine ⟨a, ws, count, delay, run, ha, hroles, hoperands, ?_, ?_, rfl⟩
      · rw [run.totalInput]
        exact hcount
      · rw [run.logDelay]
        rcases hdelay with hdelay | ⟨hdivider, hdelay⟩
        · exact .inl (congrArg Given.display hdelay)
        · exact .inr ⟨hdivider, congrArg Given.display hdelay⟩
    · rw [hp, heq]
      exact ⟨nofun, fun _ => ⟨rfl, f, _, _, rfl, houtcome, hfailure, rfl,
        fun time => ⟨_, errorText_append rfl time⟩⟩, fun _ _ => rfl⟩
    · rw [hp, heq]
      exact ⟨nofun, nofun, fun _ _ => rfl⟩
  · change p = _ at hp
    rw [hp]
    exact ⟨nofun, nofun, nofun⟩

end Program

/-! ## Two records in a log stream

Three records were produced, of which two have been delivered. -/

namespace Program.TwoRecords

local instance : Bounds := .usual

/-- A host with the log stream of three pages. -/
def host : Host where
  environment := .ofList [("AWS_REGION", "us-east-1"), ("S3_BUCKET_NAME", "bucket"),
    ("CW_LOG_GROUP_NAME", "group"), ("LOG_PREFIX", "stream"), ("DESTINATION", "cloudwatch")]
  opener _ := .error .notFound
  makeClient _ _ := .ok LogStream.ThreePages.client

/-- The settings in its environment. -/
def settings : Settings :=
  ⟨"us-east-1", "bucket", "group", "stream", "cloudwatch", 10000000, RetryBudget.usual⟩

/-- The reader that is set up. -/
def reader : Reader :=
  ⟨.logStream LogStream.ThreePages.stream, RetryBudget.usual, LogStream.ThreePages.client⟩

/-- The delivered records. -/
def records : List Record :=
  [⟨Text.ofString "10000000", Text.ofString "_"⟩, ⟨Text.ofString "10000001", Text.ofString "_"⟩]

theorem settings_host :
    Settings.ofSources host.environment (.mapping SettingsFile.absent.entries) = .ok settings := by
  rfl

theorem reader_settings : settings.reader host.makeClient = .ok reader := rfl

theorem fault_reader : reader.traverse.fault = none :=
  Option.isNone_iff_eq_none.1 (by decide +kernel)

theorem eq_map_ok {stream : List (Except Record.Fault Record)} {records : List Record}
    (h : stream.map Except.toOption = records.map some) : stream = records.map .ok := by
  induction stream generalizing records with
  | nil =>
    cases records with
    | nil => rfl
    | cons => cases h
  | cons r stream ih =>
    cases records with
    | nil => cases h
    | cons record records =>
      obtain ⟨hhead, htail⟩ := List.cons.inj h
      cases r with
      | error f => cases hhead
      | ok r => rw [Option.some.inj hhead, ih htail, List.map_cons]

theorem records_reader :
    reader.traverse.lines.map (Record.ofLine reader.destination.enveloped) = records.map .ok :=
  eq_map_ok (by decide +kernel)

/-- The report of this host, where so many records were produced, of which
so many are unique. -/
theorem outcome_host {total : Int} {unique : Nat} {delay text : String}
    (hroster : (Roster.ofRange total 10000000).toOption.isSome)
    (hunique : (Roster.idsFrom 10000000 total.toNat).countP (· ∈ records.map Record.id) = unique)
    (htext : (⟨total, 2, unique, 2 - unique, Int.fdiv ((total - unique) * 100) total,
      total - unique, delay, ["Total log event pages:  3"]⟩ : Report).text? = some text) :
    (Run.ofOrder ⟨total, delay, none⟩ host).outcome = .ok text := by
  have hread : SettingsFile.read host.opener none = .ok SettingsFile.absent := rfl
  have hsummary : reader.summary reader.traverse.events = ["Total log event pages:  3"] := by
    decide +kernel
  cases hrange : Roster.ofRange total 10000000 with
  | error f =>
    rw [hrange] at hroster
    cases hroster
  | ok roster =>
    obtain ⟨hpos, rfl⟩ := Roster.ofRange_eq_ok hrange
    have hcount : ¬ total < 1 := by omega
    rw [Run.outcome_of_parts hread settings_host hrange reader_settings,
      Run.outcomeOf_of_records fault_reader records_reader, hsummary,
      Report.ofCounts?_marks _ _ (Roster.nodup_idsFrom _ _), hunique, if_neg hcount,
      Option.elim_some]
    exact congrArg (fun text? => Option.elim text? (Except.error RunFault.tooLong) Except.ok) htext

/-- What the program makes of this report. -/
theorem ofWords_host {words : List String} {a : Arguments} {text : String}
    (ha : Arguments.ofWords words = .ok a)
    (houtcome : (Run.ofOrder (orderOf a) host).outcome = .ok text) :
    (ofWords words host).ending = .returned 0 ∧ (ofWords words host).output = text ++ "\n" := by
  unfold ofWords
  rw [ha]
  simp only [ofRun, houtcome, and_self]

/-- One of three records is missing, and the delay is shown as it is
given. -/
theorem reports_missing_record :
    let p := ofWords ["3", "30s"] host
    p.output = "Total log event pages:  3\nTotal input record:  3\n" ++
      "Total record in destination:  2\nUnique record in destination:  2\n" ++
      "Duplicate records:  0\nLog Delay:  30s\nLog Loss:  33 %\n" ++
      "Number of missing log records:  1\n" ∧
    p.ending = .returned 0 ∧
    ∃ a, ∃ run : CompleteRun (orderOf a) host, run.report.logDelay = "30s" ∧
      p.output = "\n".intercalate run.report.written ++ "\n" := by
  have ha : Arguments.ofWords ["3", "30s"] = .ok ⟨3, .text "30s", none, false, by decide⟩ := rfl
  have hunique : (Roster.idsFrom 10000000 3).countP (· ∈ records.map Record.id) = 2 := by
    decide +kernel
  obtain ⟨hending, houtput⟩ := ofWords_host ha (outcome_host (by decide +kernel) hunique rfl)
  obtain ⟨a, ws, count, delay, run, -, hroles, hoperands, -, hdelay, hwritten⟩ :=
    (reports_complete_runs ["3", "30s"] host).1 hending
  refine ⟨houtput.trans (by decide +kernel), hending, a, run, ?_, hwritten⟩
  cases hroles
  cases hoperands
  exact hdelay.resolve_right fun h => absurd h.1 (by decide)

/-- A delay that is the divider is lost: it is given as an operand, and
shown as nothing. -/
theorem divider_delay_lost :
    (Role.ofWords ["1", "--", "--"]).map Arguments.operands = .ok ["1", "--"] ∧
    let p := ofWords ["1", "--", "--"] host
    p.ending = .returned 0 ∧
    p.output = "Total log event pages:  3\nTotal input record:  1\n" ++
      "Total record in destination:  2\nUnique record in destination:  1\n" ++
      "Duplicate records:  1\nLog Delay:  []\nLog Loss:  0 %\n" := by
  have ha : Arguments.ofWords ["1", "--", "--"] = .ok ⟨1, .nothing, none, false, by decide⟩ := rfl
  have hunique : (Roster.idsFrom 10000000 1).countP (· ∈ records.map Record.id) = 1 := by
    decide +kernel
  obtain ⟨hending, houtput⟩ := ofWords_host ha (outcome_host (by decide +kernel) hunique rfl)
  exact ⟨rfl, hending, houtput.trans (by decide +kernel)⟩

end Program.TwoRecords

end DeliveryAudit
