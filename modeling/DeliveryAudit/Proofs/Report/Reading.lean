import DeliveryAudit.Proofs.Report.Figures
import DeliveryAudit.Proofs.Roster.Counters
/-!
# Reports are read back

The text of a report tells its figures apart from the lines that are written
first, whatever these say: `Report.ofText?` takes the text apart from its end,
where the last line shows whether records are missing. So a report whose delay
and first lines hold no newline is read back from its text
(`Report.read_back`), and no two such reports have one text.
-/

namespace DeliveryAudit

theorem Number.decimal?_of_lt {n : Int} (h : n.natAbs < 10 ^ digitLimit) :
    decimal? n = some (toString n) :=
  if_pos ((length_toString_le_iff (by decide)).2 h)

theorem Number.newline_not_mem_toString (n : Int) : '\n' ∉ (toString n).toList := by
  have hdigits : ∀ m : Nat, '\n' ∉ (Nat.repr m).toList := by
    intro m hm
    rw [Nat.repr_eq_ofList_toDigits, String.toList_ofList] at hm
    exact absurd (Nat.isDigit_of_mem_toDigits (by decide) (by decide) hm) (by decide)
  change '\n' ∉ n.repr.toList
  rw [Int.repr_eq_if]
  split
  · exact hdigits _
  · rw [String.toList_append, List.mem_append]
    rintro (h | h)
    · exact absurd h (by decide)
    · exact hdigits _ h

namespace Report

variable {r r' : Report} {caption line text : String} {n : Int}

/-! ## Reading -/

/-- What stands on a line after its caption. -/
def afterCaption? (caption line : String) : Option String :=
  (line.toList.dropPrefix? caption.toList).map String.ofList

/-- What stands on a line before its unit. -/
def beforeUnit? (unit line : String) : Option String :=
  (line.toList.dropSuffix? unit.toList).map String.ofList

/-- The figure on a line with a caption. -/
def figure? (caption line : String) : Option Int := do
  (← afterCaption? caption line).toInt?

/-- The percentage on a line with a caption. -/
def percentage? (caption line : String) : Option Int := do
  (← beforeUnit? " %" (← afterCaption? caption line)).toInt?

/-- The lines of a text. -/
def linesOf (text : String) : List String := (text.toList.splitOn '\n').map String.ofList

/-- A report by its lines up to the loss, the last one first, and by how many
records are missing. -/
def ofLines? (missing : Int) : List String → Option Report
  | lossPercent :: logDelay :: duplicates :: uniqueFound :: totalFound :: totalInput ::
      summary => do
    return {
      totalInput := ← figure? "Total input record:  " totalInput
      totalFound := ← figure? "Total record in destination:  " totalFound
      uniqueFound := ← figure? "Unique record in destination:  " uniqueFound
      duplicates := ← figure? "Duplicate records:  " duplicates
      lossPercent := ← percentage? "Log Loss:  " lossPercent
      missing := missing
      logDelay := ← afterCaption? "Log Delay:  " logDelay
      summary := summary.reverse }
  | _ => none

/-- **A report by its text.** If its last line has no figure for the missing
records, none are missing. -/
def ofText? (text : String) : Option Report :=
  match (linesOf text).reverse with
  | [] => none
  | last :: before =>
    match figure? "Number of missing log records:  " last with
    | some missing => ofLines? missing before
    | none => ofLines? 0 (last :: before)

/-! ## Lines -/

theorem afterCaption?_append (caption line : String) :
    afterCaption? caption (caption ++ line) = some line := by
  rw [afterCaption?, String.toList_append, List.dropPrefix?_append_of_beq _ (beq_self_eq_true _),
    Option.map_some, String.ofList_toList]

theorem beforeUnit?_append (unit line : String) : beforeUnit? unit (line ++ unit) = some line := by
  have hdrop : (line ++ unit).toList.dropSuffix? unit.toList = some line.toList :=
    List.dropSuffix?_eq_some_iff.2 ⟨unit.toList, String.toList_append, beq_self_eq_true _⟩
  rw [beforeUnit?, hdrop, Option.map_some, String.ofList_toList]

theorem figure?_append (caption : String) (n : Int) :
    figure? caption (caption ++ toString n) = some n := by
  rw [figure?, afterCaption?_append]
  exact Int.toInt?_repr n

theorem percentage?_append (caption : String) (n : Int) :
    percentage? caption (caption ++ toString n ++ " %") = some n := by
  rw [percentage?, String.append_assoc, afterCaption?_append]
  change (beforeUnit? " %" (toString n ++ " %")).bind _ = _
  rw [beforeUnit?_append]
  exact Int.toInt?_repr n

/-- A line with another first letter has another caption. -/
theorem figure?_eq_none {c d : Char} {caption line : String}
    (hcaption : caption.toList.head? = some c) (hline : line.toList.head? = some d) (h : c ≠ d) :
    figure? caption line = none := by
  have hdrop : line.toList.dropPrefix? caption.toList = none := by
    rw [Option.eq_none_iff_forall_ne_some]
    intro rest hrest
    obtain ⟨front, hfront, heq⟩ := List.dropPrefix?_eq_some_iff.1 hrest
    rw [hfront, eq_of_beq heq, List.head?_append, hcaption] at hline
    exact h (Option.some.inj hline)
  rw [figure?, afterCaption?, hdrop]
  rfl

/-- Lines without newlines are read back from their text. -/
theorem linesOf_intercalate {lines : List String} (hlines : lines ≠ [])
    (h : ∀ line ∈ lines, '\n' ∉ line.toList) : linesOf ("\n".intercalate lines) = lines := by
  have hsplit : (("\n".intercalate lines).toList.splitOn '\n') = lines.map String.toList := by
    rw [String.toList_intercalate]
    refine List.splitOn_intercalate '\n' ?_ (by simpa using hlines)
    simpa using h
  rw [linesOf, hsplit, List.map_map]
  exact (List.map_congr_left fun line _ => String.ofList_toList).trans (List.map_id _)

/-! ## Reports -/

/-- **A report of whole lines**: no newline is in its delay, nor in the lines
that are written first. -/
structure OfWholeLines (r : Report) : Prop where
  logDelay : '\n' ∉ r.logDelay.toList
  summary : ∀ line ∈ r.summary, '\n' ∉ line.toList

/-- The figures of a report. -/
def figures (r : Report) : List Int :=
  [r.totalInput, r.totalFound, r.uniqueFound, r.duplicates, r.lossPercent, r.missing]

/-- **A report can be written** if none of its figures has too many
digits. -/
theorem exists_text? (h : ∀ n ∈ r.figures, n.natAbs < 10 ^ Number.digitLimit) :
    ∃ text, r.text? = some text := by
  have hdecimal : ∀ n ∈ r.figures, Number.decimal? n = some (toString n) := fun n hn =>
    Number.decimal?_of_lt (h n hn)
  simp only [figures, List.forall_mem_cons] at hdecimal
  obtain ⟨h₁, h₂, h₃, h₄, h₅, h₆, -⟩ := hdecimal
  rw [text?, lines?, h₁, h₂, h₃, h₄, h₅, h₆]
  split
  · exact ⟨_, rfl⟩
  · exact ⟨_, rfl⟩

/-- The lines of the figures, up to the loss. -/
def figureLines (r : Report) : List String :=
  ["Total input record:  " ++ toString r.totalInput,
    "Total record in destination:  " ++ toString r.totalFound,
    "Unique record in destination:  " ++ toString r.uniqueFound,
    "Duplicate records:  " ++ toString r.duplicates,
    "Log Delay:  " ++ r.logDelay,
    "Log Loss:  " ++ toString r.lossPercent ++ " %"]

theorem written_eq (r : Report) : r.written = r.summary ++ r.figureLines ++
    if r.missing = 0 then [] else ["Number of missing log records:  " ++ toString r.missing] := rfl

/-- The lines of the figures are read from their end. -/
theorem ofLines?_figureLines (r : Report) (missing : Int) :
    ofLines? missing (r.summary ++ r.figureLines).reverse = some { r with missing := missing } := by
  have hreverse : (r.summary ++ r.figureLines).reverse = r.figureLines.reverse ++
      r.summary.reverse := List.reverse_append
  rw [hreverse, figureLines]
  change ofLines? missing (_ :: _ :: _ :: _ :: _ :: _ :: r.summary.reverse) = _
  simp only [ofLines?, figure?_append, percentage?_append, afterCaption?_append,
    List.reverse_reverse]
  rfl

theorem OfWholeLines.newline_not_mem (h : r.OfWholeLines) :
    ∀ line ∈ r.written, '\n' ∉ line.toList := by
  have hcaption : ∀ (caption line : String), '\n' ∉ caption.toList → '\n' ∉ line.toList →
      '\n' ∉ (caption ++ line).toList := by
    intro caption line hcaption hline
    rw [String.toList_append, List.mem_append]
    exact not_or.2 ⟨hcaption, hline⟩
  have hnumber := Number.newline_not_mem_toString
  intro line hline
  simp only [written, List.mem_append, List.mem_cons, List.not_mem_nil, or_false] at hline
  obtain (hline | rfl | rfl | rfl | rfl | rfl | rfl) | hline := hline
  · exact h.summary line hline
  · exact hcaption _ _ (by decide) (hnumber _)
  · exact hcaption _ _ (by decide) (hnumber _)
  · exact hcaption _ _ (by decide) (hnumber _)
  · exact hcaption _ _ (by decide) (hnumber _)
  · exact hcaption _ _ (by decide) h.logDelay
  · exact hcaption _ _ (hcaption _ _ (by decide) (hnumber _)) (by decide)
  · split at hline
    · cases hline
    · obtain rfl := List.mem_singleton.1 hline
      exact hcaption _ _ (by decide) (hnumber _)

/-- The last line shows whether records are missing. -/
theorem ofText?_of_linesOf {before : List String} {last : String}
    (h : linesOf text = before ++ [last]) :
    ofText? text = match figure? "Number of missing log records:  " last with
      | some missing => ofLines? missing before.reverse
      | none => ofLines? 0 (before ++ [last]).reverse := by
  rw [ofText?, h, List.reverse_append]
  rfl

/-- **A report is read from its lines**, with the missing records or without
them. -/
theorem OfWholeLines.ofText?_written (h : r.OfWholeLines) :
    ofText? ("\n".intercalate r.written) = some r := by
  have hnonempty : r.written ≠ [] := by
    rw [written_eq]
    simp [figureLines]
  have hlines := linesOf_intercalate hnonempty h.newline_not_mem
  generalize "\n".intercalate r.written = text at hlines
  rw [written_eq] at hlines
  by_cases hmissing : r.missing = 0
  · -- The last line is that of the loss, which has another caption.
    have hloss : figure? "Number of missing log records:  "
        ("Log Loss:  " ++ toString r.lossPercent ++ " %") = none :=
      figure?_eq_none (c := 'N') (d := 'L') (by decide) (by simp [String.toList_append]) (by decide)
    have hlast : r.summary ++ r.figureLines = (r.summary ++ r.figureLines.dropLast) ++
        ["Log Loss:  " ++ toString r.lossPercent ++ " %"] := by
      rw [List.append_assoc]
      rfl
    rw [if_pos hmissing, List.append_nil, hlast] at hlines
    rw [ofText?_of_linesOf hlines, hloss, ← hlast]
    change ofLines? 0 _ = _
    rw [ofLines?_figureLines, ← hmissing]
  · rw [if_neg hmissing] at hlines
    rw [ofText?_of_linesOf hlines, figure?_append]
    exact ofLines?_figureLines r r.missing

/-- **Reports are read back.** A report of whole lines whose figures can be
written has a text, from which every part of it is read back. So two such
reports with one text are one report. -/
theorem read_back :
    (∀ r : Report, r.OfWholeLines → (∀ n ∈ r.figures, n.natAbs < 10 ^ Number.digitLimit) →
      ∃ text, r.text? = some text ∧ ofText? text = some r) ∧
    ∀ (r r' : Report) (text : String), r.OfWholeLines → r'.OfWholeLines → r.text? = some text →
      r'.text? = some text → r = r' := by
  have hread : ∀ (r : Report) (text : String), r.OfWholeLines → r.text? = some text →
      ofText? text = some r := by
    intro r text hr htext
    rw [text?_eq_some htext]
    exact hr.ofText?_written
  refine ⟨fun r hr hfigures => ?_, fun r r' text hr hr' htext htext' => ?_⟩
  · obtain ⟨text, htext⟩ := exists_text? hfigures
    exact ⟨text, htext, hread r text hr htext⟩
  · exact Option.some.inj ((hread r text hr htext).symm.trans (hread r' text hr' htext'))

/-! ## Lines that imitate others

The first lines and the delay look like lines of figures, and no records are
missing. -/

namespace Imitation

/-- The report with the imitations. -/
def report : Report where
  totalInput := 5
  totalFound := -12
  uniqueFound := 5
  duplicates := -17
  lossPercent := 0
  missing := 0
  logDelay := "Log Loss:  40 %"
  summary := ["", "Log Loss:  40 %", "Number of missing log records:  2"]

/-- Its text. -/
def writing : String :=
  "\nLog Loss:  40 %\nNumber of missing log records:  2\nTotal input record:  5\n" ++
    "Total record in destination:  -12\nUnique record in destination:  5\n" ++
    "Duplicate records:  -17\nLog Delay:  Log Loss:  40 %\nLog Loss:  0 %"

theorem ofWholeLines_report : report.OfWholeLines where
  logDelay := by decide
  summary := by decide

/-- **The imitations are told apart**: the report is read back from its text,
which no other report has. -/
theorem read_back_imitation :
    ofText? writing = some report ∧
      ∀ r : Report, r.OfWholeLines → r.text? = some writing → r = report := by
  have hfigures : ∀ n ∈ report.figures, n.natAbs < 10 ^ Number.digitLimit := by
    have hten : 10 ^ 2 ≤ 10 ^ Number.digitLimit := Nat.pow_le_pow_right (by decide) (by decide)
    intro n hn
    refine Nat.lt_of_lt_of_le ?_ hten
    revert n
    decide
  have hwritten : "\n".intercalate report.written = writing := by decide +kernel
  obtain ⟨text, htext, hread⟩ := read_back.1 report ofWholeLines_report hfigures
  obtain rfl := (text?_eq_some htext).trans hwritten
  exact ⟨hread, fun r hr hsame => read_back.2 r report writing hr ofWholeLines_report hsame htext⟩

end Imitation

end Report

end DeliveryAudit
