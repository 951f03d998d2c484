import DeliveryAudit.Proofs.Audit.Progress
import DeliveryAudit.Proofs.Destination.Ending
import DeliveryAudit.Proofs.Report.Figures
import DeliveryAudit.Run
/-!
# Complete runs

A run that reports is complete (`CompleteRun`): its settings have been
read, its traversal has come to its end, every line has been extracted
and counted, and the figures are those of these records. Each part of a
run passes this on to the next: the tally (`Tally.exists_records`), the
audit (`Audit.complete_of_fault_eq_none`), and the run
(`Run.exists_completeRun`).
-/

namespace DeliveryAudit

/-- A stream that is counted without a fault consists of records. -/
theorem Tally.exists_records {stream : List (Except Record.Fault Record)} {roster : Roster}
    {n : Nat} (h : (countAll ⟨roster, n, false⟩ stream).2 = none) :
    ∃ records : List Record, stream = records.map .ok := by
  induction stream generalizing roster n with
  | nil => exact ⟨[], rfl⟩
  | cons record stream ih =>
    cases record with
    | error f => cases h
    | ok r =>
      have hcount : count? ⟨roster, n, false⟩ r.id = some ⟨roster.mark r.id, n + 1, false⟩ := rfl
      rw [countAll, hcount] at h
      obtain ⟨records, rfl⟩ := ih h
      exact ⟨r :: records, rfl⟩

namespace Audit

section History

variable {p : Event → Bool} (hlogged : ∀ n, p (.logged n) = false)

include hlogged

theorem countP_progress (n : Nat) : (progress n).countP p = 0 := by
  unfold progress
  split
  · rw [List.countP_singleton, note, hlogged]
    rfl
  · rfl

theorem countP_closing (t : Tally) : (closing t).countP p = 0 := by
  unfold closing note
  dsimp only
  split
  · rw [List.countP_singleton, hlogged]
    rfl
  · rw [List.countP_cons_of_neg (by simp [hlogged]), List.countP_singleton, hlogged]
    rfl

/-- What an audit makes known adds nothing but notices. -/
theorem countP_told (n : Nat) (es : List Event) : (told n es).countP p = es.countP p := by
  induction es generalizing n with
  | nil => rfl
  | cons e es ih =>
    cases e with
    | line v =>
      rw [told, List.countP_cons, List.countP_append, countP_progress hlogged, ih,
        List.countP_cons, Nat.zero_add]
    | _ => simp only [told, List.countP_cons, ih]

end History

variable [Bounds] {r : Reader} {roster : Roster} {records : List Record}

/-- The lines of records are counted as their ids. -/
theorem count_records {enveloped : Bool} {lines : List Value}
    (hrecords : lines.map (Record.ofLine enveloped) = records.map .ok) :
    count enveloped lines (Tally.start roster) =
      (⟨(records.map Record.id).foldl Roster.mark roster, records.length, false⟩, none) := by
  have h := Tally.countAll_records records [] roster 0
  rw [List.append_nil, Nat.zero_add, Tally.countAll] at h
  rw [count, hrecords]
  exact h

/-- **The audit of records** counts all of them, and is closed. -/
theorem run_of_records (roster : Roster) (hfault : r.traverse.fault = none)
    (hrecords : r.traverse.lines.map (Record.ofLine r.destination.enveloped) = records.map .ok) :
    (run r roster).tally =
        ⟨(records.map Record.id).foldl Roster.mark roster, records.length, true⟩ ∧
      (run r roster).fault = none := by
  have h := ofTraversal_eq r.destination.enveloped r.traverse roster
  rw [count_records hrecords, hfault] at h
  exact h

/-- **An audit without a fault** has come to the end of its traversal, and
has extracted a record from every line. -/
theorem complete_of_fault_eq_none (h : (run r roster).fault = none) :
    r.traverse.fault = none ∧
      ∃ records : List Record,
        r.traverse.lines.map (Record.ofLine r.destination.enveloped) = records.map .ok := by
  rw [run, (ofTraversal_eq r.destination.enveloped r.traverse roster).2] at h
  cases hcounted : (count r.destination.enveloped r.traverse.lines (Tally.start roster)).2 with
  | some f => rw [hcounted] at h; cases h
  | none =>
    rw [hcounted] at h
    cases hfault : r.traverse.fault with
    | some f => rw [hfault] at h; cases h
    | none => exact ⟨rfl, Tally.exists_records hcounted⟩

/-- **The history of an audit** is its traversal, apart from notices. -/
theorem countP_history {p : Event → Bool} (hlogged : ∀ n, p (.logged n) = false)
    (h : (run r roster).fault = none) :
    (run r roster).history.countP p = r.traverse.events.countP p := by
  obtain ⟨hfault, records, hrecords⟩ := complete_of_fault_eq_none h
  rw [run, ofTraversal, follow_of_records hrecords, hfault]
  simp only [List.reverse_reverse, List.countP_append, countP_told hlogged,
    countP_closing hlogged, Nat.add_zero]

/-- So the report sums up the traversal. -/
theorem summary_history (h : (run r roster).fault = none) :
    r.summary (run r roster).history = r.summary r.traverse.events := by
  unfold Reader.summary
  rw [countP_history (fun _ => rfl) h, countP_history (fun _ => rfl) h]

end Audit

/-- **A complete run**: the settings were read, the traversal has come to
its end, a record was extracted from every line and counted, and the
report has the figures of these records. -/
structure CompleteRun [Bounds] (o : RunOrder) (host : Host) where
  file : SettingsFile
  settings : Settings
  reader : Reader
  records : List Record
  report : Report
  read : SettingsFile.read host.opener o.settingsPath = .ok file
  set : Settings.ofSources host.environment (.mapping file.entries) = .ok settings
  made : settings.reader host.makeClient = .ok reader
  fault : reader.traverse.fault = none
  comesToEnd : reader.ComesToEnd
  extracted :
    reader.traverse.lines.map (Record.ofLine reader.destination.enveloped) = records.map .ok
  /-- The ids of all records, and of no others, have been marked on the
  roster. -/
  counted :
    let roster := Roster.ofIds (Roster.idsFrom settings.recordBase o.totalRecords.toNat)
    (Audit.run reader roster).tally =
      ⟨(records.map Record.id).foldl Roster.mark roster, records.length, true⟩
  figures : report.Figures (Roster.idsFrom settings.recordBase o.totalRecords.toNat)
    (records.map Record.id)
  totalInput : report.totalInput = o.totalRecords
  totalFound : report.totalFound = reader.traverse.lines.length
  logDelay : report.logDelay = o.logDelay
  summary : report.summary = reader.summary reader.traverse.events

namespace Run

variable {o : RunOrder} {host : Host} {text : String}

/-- Only an audit without a fault is reported on. -/
theorem fault_of_outcomeOf {r : Reader} {a : Audit} (h : outcomeOf o r a = .ok text) :
    a.fault = none := by
  unfold outcomeOf at h
  cases hfault : a.fault with
  | some f => rw [hfault] at h; cases h
  | none => rfl

variable [Bounds]

/-- The report on an audit without a fault, by the records that it has
extracted. -/
theorem outcomeOf_of_records {r : Reader} {roster : Roster} {records : List Record}
    (hfault : r.traverse.fault = none)
    (hrecords : r.traverse.lines.map (Record.ofLine r.destination.enveloped) = records.map .ok) :
    outcomeOf o r (Audit.run r roster) =
      (Report.ofCounts? o.totalRecords records.length
        ((records.map Record.id).foldl Roster.mark roster) o.logDelay
        (r.summary r.traverse.events)).elim (.error (.noRecords o.totalRecords))
        fun report => report.text?.elim (.error .tooLong) .ok := by
  obtain ⟨htally, hnone⟩ := Audit.run_of_records roster hfault hrecords
  have hreport : outcomeOf o r (Audit.run r roster) = report o r (Audit.run r roster) := by
    simp only [outcomeOf, hnone]
  rw [hreport, report, htally, Audit.summary_history hnone]
  cases Report.ofCounts? o.totalRecords records.length
      ((records.map Record.id).foldl Roster.mark roster) o.logDelay
      (r.summary r.traverse.events) with
  | none => rfl
  | some report => rfl

/-- A run in which nothing fails before the audit. -/
theorem outcome_of_parts {file : SettingsFile} {s : Settings} {roster : Roster} {r : Reader}
    (hread : SettingsFile.read host.opener o.settingsPath = .ok file)
    (hset : Settings.ofSources host.environment (.mapping file.entries) = .ok s)
    (hroster : Roster.ofRange o.totalRecords s.recordBase = .ok roster)
    (hmade : s.reader host.makeClient = .ok r) :
    (ofOrder o host).outcome = outcomeOf o r (Audit.run r roster) := by
  simp only [ofOrder, hread, hset, bySettings, hroster, hmade]

/-- **How a run comes to a report**: nothing has failed on the way. -/
theorem outcome_eq_ok (h : (ofOrder o host).outcome = .ok text) :
    ∃ file s roster r, SettingsFile.read host.opener o.settingsPath = .ok file ∧
      Settings.ofSources host.environment (.mapping file.entries) = .ok s ∧
      Roster.ofRange o.totalRecords s.recordBase = .ok roster ∧
      s.reader host.makeClient = .ok r ∧ outcomeOf o r (Audit.run r roster) = .ok text := by
  unfold ofOrder at h
  cases hread : SettingsFile.read host.opener o.settingsPath with
  | error f => rw [hread] at h; cases h
  | ok file =>
    simp only [hread] at h
    cases hset : Settings.ofSources host.environment (.mapping file.entries) with
    | error f => rw [hset] at h; cases h
    | ok s =>
      simp only [hset, bySettings] at h
      cases hroster : Roster.ofRange o.totalRecords s.recordBase with
      | error f => rw [hroster] at h; cases h
      | ok roster =>
        simp only [hroster] at h
        cases hmade : s.reader host.makeClient with
        | error f => rw [hmade] at h; cases h
        | ok r => exact ⟨file, s, roster, r, rfl, hset, hroster, hmade, by rw [hmade] at h; exact h⟩

/-- What is written, when the records of a run are reported on. -/
theorem exists_report {r : Reader} {roster : Roster} {records : List Record}
    (hfault : r.traverse.fault = none)
    (hrecords : r.traverse.lines.map (Record.ofLine r.destination.enveloped) = records.map .ok)
    (h : outcomeOf o r (Audit.run r roster) = .ok text) :
    ∃ report, Report.ofCounts? o.totalRecords (records.map Record.id).length
        ((records.map Record.id).foldl Roster.mark roster) o.logDelay
        (r.summary r.traverse.events) = some report ∧
      text = "\n".intercalate report.written := by
  rw [outcomeOf_of_records hfault hrecords] at h
  rw [List.length_map]
  cases hreport : Report.ofCounts? o.totalRecords records.length
      ((records.map Record.id).foldl Roster.mark roster) o.logDelay
      (r.summary r.traverse.events) with
  | none => rw [hreport] at h; cases h
  | some report =>
    rw [hreport, Option.elim_some] at h
    refine ⟨report, rfl, ?_⟩
    cases htext : report.text? with
    | none => rw [htext] at h; cases h
    | some written =>
      rw [htext] at h
      rw [← Except.ok.inj h]
      exact Report.text?_eq_some htext

/-- **A run that reports is complete.** -/
theorem exists_completeRun (h : (ofOrder o host).outcome = .ok text) :
    ∃ run : CompleteRun o host, text = "\n".intercalate run.report.written := by
  obtain ⟨file, s, roster, r, hread, hset, hroster, hmade, houtcome⟩ := outcome_eq_ok h
  obtain ⟨hfault, records, hrecords⟩ :=
    Audit.complete_of_fault_eq_none (fault_of_outcomeOf houtcome)
  obtain ⟨hpos, rfl⟩ := Roster.ofRange_eq_ok hroster
  obtain ⟨report, hreport, htext⟩ := exists_report hfault hrecords houtcome
  have htotal : o.totalRecords = (Roster.idsFrom s.recordBase o.totalRecords.toNat).length := by
    rw [Roster.length_idsFrom]
    omega
  obtain ⟨hfigures, hdelay, hsummary⟩ :=
    Report.figures_of_ofCounts? (Roster.nodup_idsFrom _ _) htotal hpos hreport
  have hlines : (records.map Record.id).length = r.traverse.lines.length := by
    have h := congrArg List.length hrecords
    rw [List.length_map, List.length_map] at h
    rw [List.length_map, h]
  exact ⟨{
    file := file
    settings := s
    reader := r
    records := records
    report := report
    read := hread
    set := hset
    made := hmade
    fault := hfault
    comesToEnd := Reader.comesToEnd_of_fault_eq_none hfault
    extracted := hrecords
    counted := (Audit.run_of_records _ hfault hrecords).1
    figures := hfigures
    totalInput := hfigures.totalInput.trans htotal.symm
    totalFound := hfigures.totalFound.trans (congrArg Int.ofNat hlines)
    logDelay := hdelay
    summary := hsummary }, htext⟩

end Run

end DeliveryAudit
