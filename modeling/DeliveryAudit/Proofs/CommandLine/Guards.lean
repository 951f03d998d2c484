import DeliveryAudit.Proofs.CommandLine.Faults
import DeliveryAudit.Proofs.Destination.Freshness
import DeliveryAudit.Proofs.Settings.Checks
import DeliveryAudit.Proofs.Tally.Operations
/-!
# Guards that are never reached

Some parts of a run refuse what they are asked for (`Guard`): a roster or
a report of no records, a line for a tally that is closed, a second
traversal, a destination that is not supported. In a run of the program
each of these is ruled out before: by the arguments, by the checks of the
settings, by the order in which a tally is counted and closed, and by a
reader that is new (`Run.Guarded`). So no run ends at one of them
(`Program.guards_unreached`).
-/

namespace DeliveryAudit

/-- A part of a run that refuses what it is asked for. -/
inductive Guard where
  /-- The roster of so many counters. -/
  | roster (count : Int)
  /-- The report on so many records. -/
  | report (totalRecords : Int)
  /-- A tally that is closed. -/
  | closed
  /-- A reader that has been read before. -/
  | again (reader : String)
  /-- A destination without a reader. -/
  | unregistered (destination : String)

/-- How a run ends at a guard. -/
def Guard.fault : Guard → RunFault
  | roster count => .roster (.notPositive count)
  | report totalRecords => .noRecords totalRecords
  | closed => .audit (.tally .late)
  | again reader => .audit (.traversal (.again reader))
  | unregistered destination => .setup (.destination (.unregistered destination))

/-! ## How a run ends before its time -/

namespace Run

variable {o : RunOrder} {host : Host} {f : RunFault}
variable [Bounds]

/-- **The part at which a run ends**, all before it having gone well. -/
inductive Fails (o : RunOrder) (host : Host) : RunFault → Prop where
  | file {f : SettingsFile.Fault}
      (hread : SettingsFile.read host.opener o.settingsPath = .error f) :
    Fails o host (.file f)
  | settings {file : SettingsFile} {f : Settings.Fault}
    (hread : SettingsFile.read host.opener o.settingsPath = .ok file)
    (hset : Settings.ofSources host.environment (.mapping file.entries) = .error f) :
    Fails o host (.settings f)
  | roster {file : SettingsFile} {s : Settings} {f : Roster.Fault}
    (hread : SettingsFile.read host.opener o.settingsPath = .ok file)
    (hset : Settings.ofSources host.environment (.mapping file.entries) = .ok s)
    (hranged : Roster.ofRange o.totalRecords s.recordBase = .error f) : Fails o host (.roster f)
  | setup {file : SettingsFile} {s : Settings} {f : SetupFault}
    (hread : SettingsFile.read host.opener o.settingsPath = .ok file)
    (hset : Settings.ofSources host.environment (.mapping file.entries) = .ok s)
    (hmade : s.reader host.makeClient = .error f) : Fails o host (.setup f)
  | audit {f : AuditFault} (q : Prepared o host) (hfault : q.audit.fault = some f) :
    Fails o host (.audit f)
  | report {f : RunFault} (q : Prepared o host) (hfault : q.audit.fault = none)
    (hreport : report o q.reader q.audit = .error f) : Fails o host f

/-- **A run that does not report fails at one of its parts.** -/
theorem fails_of_outcome (h : (ofOrder o host).outcome = .error f) : Fails o host f := by
  unfold ofOrder at h
  cases hread : SettingsFile.read host.opener o.settingsPath with
  | error g =>
    rw [hread] at h
    cases h
    exact .file hread
  | ok file =>
    simp only [hread] at h
    cases hset : Settings.ofSources host.environment (.mapping file.entries) with
    | error g =>
      rw [hset] at h
      cases h
      exact .settings hread hset
    | ok s =>
      simp only [hset, bySettings] at h
      cases hranged : Roster.ofRange o.totalRecords s.recordBase with
      | error g =>
        rw [hranged] at h
        cases h
        exact .roster hread hset hranged
      | ok roster =>
        simp only [hranged] at h
        cases hmade : s.reader host.makeClient with
        | error g =>
          rw [hmade] at h
          cases h
          exact .setup hread hset hmade
        | ok r =>
          rw [hmade] at h
          change outcomeOf o r (Audit.run r roster) = .error f at h
          let q : Prepared o host := ⟨file, s, roster, r, hread, hset, hranged, hmade⟩
          cases hfault : (Audit.run r roster).fault with
          | some g =>
            rw [outcomeOf, hfault] at h
            cases h
            exact .audit q hfault
          | none =>
            rw [outcomeOf, hfault] at h
            exact .report q hfault h

end Run

/-! ## Each part asks for what it gets -/

/-- Where records are asked for, the roster of their counters is not
refused. -/
theorem Roster.ofRange_ne_notPositive {count : Int} (hcount : 0 < count) (base n : Int) :
    ofRange count base ≠ .error (.notPositive n) := by
  intro h
  rw [ofRange, if_neg (by omega)] at h
  split at h
  · cases h
  · cases h

/-- A report on records is only refused where a figure is too long. -/
theorem Run.eq_tooLong_of_report {o : RunOrder} {r : Reader} {a : Audit} {f : RunFault}
    (hcount : 0 < o.totalRecords) (h : report o r a = .error f) : f = .tooLong := by
  obtain ⟨report', hreport⟩ : ∃ report', Report.ofCounts? o.totalRecords a.tally.lines
      a.tally.roster o.logDelay (r.summary a.history) = some report' := ⟨_, if_neg (by omega)⟩
  rw [report, hreport] at h
  cases htext : report'.text? with
  | some text =>
    simp only [htext] at h
    cases h
  | none =>
    simp only [htext] at h
    cases h
    rfl

/-- Where the destination is supported, only making the client can fail. -/
theorem Settings.reader_ne_unregistered {s : Settings} {kind : DestinationKind}
    (h : DestinationKind.ofName? s.destination = some kind) (make : ClientMaker) (name : String) :
    s.reader make ≠ .error (.destination (.unregistered name)) := by
  simp only [reader, h]
  split
  · nofun
  · next e he =>
    unfold setupFault
    split
    · nofun
    · nofun

/-- **An open tally** counts any record, and stays open. -/
theorem Tally.countAll_of_open {t : Tally} (hopen : t.isSealed = false)
    (stream : List (Except Record.Fault Record)) :
    (t.countAll stream).2 ≠ some .late ∧ (t.countAll stream).1.isSealed = false := by
  induction stream generalizing t with
  | nil => exact ⟨fun h => (by cases h), hopen⟩
  | cons record rest ih =>
    cases record with
    | error f =>
      rw [countAll, fail_of_open hopen]
      exact ⟨fun h => (by cases h), rfl⟩
    | ok r =>
      have hcount : t.count? r.id = some ⟨t.roster.mark r.id, t.lines + 1, false⟩ := by
        rw [count?_eq, hopen]
        rfl
      simp only [countAll, hcount]
      exact ih rfl

/-- **No audit counts a line too late**, and none reads a second time. -/
theorem Audit.fault_run [Bounds] (r : Reader) (roster : Roster) :
    (run r roster).fault ≠ some (.tally .late) ∧
      ∀ name, (run r roster).fault ≠ some (.traversal (.again name)) := by
  have hlate := (Tally.countAll_of_open (t := Tally.start roster) rfl
    (r.traverse.lines.map (Record.ofLine r.destination.enveloped))).1
  have hagain := r.neverAgain_traverse
  rw [run, (ofTraversal_eq r.destination.enveloped r.traverse roster).2, count]
  cases hcounted : ((Tally.start roster).countAll
      (r.traverse.lines.map (Record.ofLine r.destination.enveloped))).2 with
  | some f =>
    -- A line ended the audit, before the fault of the traversal.
    rw [hcounted] at hlate
    refine ⟨fun h => hlate ?_, fun name h => ?_⟩
    · cases h
      rfl
    · cases h
  | none =>
    cases hfault : r.traverse.fault with
    | some f =>
      refine ⟨fun h => ?_, fun name h => hagain name ?_⟩
      · cases h
      · cases h
        exact hfault
    | none =>
      refine ⟨fun h => ?_, fun name h => ?_⟩
      · cases h
      · cases h

/-! ## A run of the program -/

/-- **A guarded run**: what each of its parts is asked for is ruled in
before. -/
structure Run.Guarded [Bounds] (o : RunOrder) (host : Host) : Prop where
  /-- The number that the loss is divided by. -/
  positive : 0 < o.totalRecords
  supported : ∀ file s, SettingsFile.read host.opener o.settingsPath = .ok file →
    Settings.ofSources host.environment (.mapping file.entries) = .ok s →
    ∃ kind, DestinationKind.ofName? s.destination = some kind
  /-- The tally is open whenever a line is counted. -/
  opened : ∀ (q : Prepared o host) (n : Nat),
    (Audit.count q.reader.destination.enveloped (q.reader.traverse.lines.take n)
      (Tally.start q.roster)).1.isSealed = false
  /-- The reader is new: what the audit is made of is what the first handle
  brings. -/
  first : ∀ q : Prepared o host, ((Session.start q.reader).obtain.2.drain 0).1 =
    ⟨q.reader.traverse.lines, q.reader.traverse.fault.isNone, q.reader.traverse.fault⟩
  /-- No line is refused as one of a second traversal, in whatever pieces
  they are pulled. -/
  neverAgain : ∀ (q : Prepared o host) (sizes : Nat → Nat) (i : Nat),
    ∀ p ∈ (Session.pullPieces q.reader sizes i).1, ∀ name, p.fault ≠ some (.again name)
  /-- So the run ends at no guard. -/
  outcome : ∀ g : Guard, (ofOrder o host).outcome ≠ .error g.fault

/-- The settings of a run name a destination that is supported. -/
theorem Run.supported_of_set [Bounds] {host : Host} {file : SettingsFile} {s : Settings}
    (hset : Settings.ofSources host.environment (.mapping file.entries) = .ok s) :
    ∃ kind, DestinationKind.ofName? s.destination = some kind :=
  (Settings.readFrom_of_ofSources rfl hset).supported

/-- **A run on records ends at no guard**, whichever part it fails at. -/
theorem Run.outcome_ne_guard [Bounds] {o : RunOrder} (hpos : 0 < o.totalRecords) (host : Host)
    (g : Guard) : (ofOrder o host).outcome ≠ .error g.fault := by
  intro h
  have hfails := fails_of_outcome h
  generalize hf : g.fault = f at hfails
  -- Each part has its own guards, and any other fault is none of them.
  cases hfails with
  | file hread => cases g with | _ => cases hf
  | settings hread hset => cases g with | _ => cases hf
  | roster hread hset hranged =>
    cases g with
    | roster count =>
      cases hf
      exact Roster.ofRange_ne_notPositive hpos _ _ hranged
    | _ => cases hf
  | setup hread hset hmade =>
    cases g with
    | unregistered destination =>
      cases hf
      obtain ⟨kind, hkind⟩ := supported_of_set hset
      exact Settings.reader_ne_unregistered hkind _ _ hmade
    | _ => cases hf
  | audit q hfault =>
    obtain ⟨hlate, hagain⟩ := Audit.fault_run q.reader q.roster
    cases g with
    | closed =>
      cases hf
      exact hlate hfault
    | again reader =>
      cases hf
      exact hagain reader hfault
    | _ => cases hf
  | report q hfault hreport =>
    rw [eq_tooLong_of_report hpos hreport] at hf
    cases g with | _ => cases hf

theorem Run.guarded_of_pos [Bounds] {o : RunOrder} (hpos : 0 < o.totalRecords) (host : Host) :
    Guarded o host where
  positive := hpos
  supported _ _ _ hset := supported_of_set hset
  opened q _ := (Tally.countAll_of_open (t := Tally.start q.roster) rfl _).2
  first q := (Session.stands_obtain q.reader).drain_end.1
  neverAgain q sizes i := (Session.pieces_neverAgain q.reader sizes i).1
  outcome := outcome_ne_guard hpos host

namespace Program

variable {verbose : Bool} {r : Run} {f : RunFault}
variable [Bounds]

theorem run_ofRun (verbose : Bool) (r : Run) : (ofRun verbose r).run = some r := by
  rcases ofRun_cases verbose r with ⟨text, -, h⟩ | ⟨f, -, -, h⟩ | ⟨f, -, h⟩
  · rw [h]
  · rw [h]
  · rw [h]

/-- Only the fault of a run escapes. -/
theorem outcome_of_escaped (h : (ofRun verbose r).ending = .escaped f) : r.outcome = .error f := by
  rcases ofRun_cases verbose r with ⟨text, -, hp⟩ | ⟨f', -, -, hp⟩ | ⟨f', houtcome, hp⟩
  · rw [hp] at h
    cases h
  · rw [hp] at h
    cases h
  · rw [hp] at h
    cases h
    exact houtcome

/-- **Guards are never reached.** Whatever the words, the environment, the
files and the answers of the client are: a run that the arguments ask for
is guarded, and the program ends at no guard. -/
theorem guards_unreached (words : List String) (host : Host) :
    (∀ a, Arguments.ofWords words = .ok a → Run.Guarded (orderOf a) host) ∧
    ∀ g : Guard, (ofWords words host).ending ≠ .escaped g.fault ∧
      ∀ r, (ofWords words host).run = some r → r.outcome ≠ .error g.fault := by
  refine ⟨fun a _ => Run.guarded_of_pos a.totalRecords_pos host, fun g => ?_⟩
  rcases ofWords_cases words host with ⟨a, -, hp⟩ | ⟨code, output, errors, hp⟩
  · have hguard := Run.outcome_ne_guard (o := orderOf a) a.totalRecords_pos host g
    rw [hp, run_ofRun]
    refine ⟨fun h => hguard (outcome_of_escaped h), fun r hr => ?_⟩
    cases hr
    exact hguard
  · rw [hp]
    refine ⟨fun h => ?_, fun r hr => ?_⟩
    · cases h
    · cases hr

end Program

/-! ## Three records, and none

The words ask for a run on three records. An order of no records, which no
words can give, does reach the guard of the roster. -/

namespace Program.TwoRecords

local instance : Bounds := .usual

theorem guards_unreached_three :
    Arguments.ofWords ["3", "30s"] = .ok ⟨3, .text "30s", none, false, by decide⟩ ∧
    Run.Guarded ⟨3, "30s", none⟩ host ∧
    (ofWords ["3", "30s"] host).ending ≠ .escaped (Guard.fault .closed) := by
  have ha : Arguments.ofWords ["3", "30s"] = .ok ⟨3, .text "30s", none, false, by decide⟩ := rfl
  obtain ⟨hguarded, hunreached⟩ := guards_unreached ["3", "30s"] host
  have hthree := hguarded ⟨3, .text "30s", none, false, by decide⟩ ha
  exact ⟨ha, hthree, (hunreached .closed).1⟩

example : (Run.ofOrder ⟨0, "30s", none⟩ host).outcome = .error (Guard.fault (.roster 0)) := rfl

end Program.TwoRecords

end DeliveryAudit
