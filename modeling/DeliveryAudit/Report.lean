import DeliveryAudit.Number.Decimal
import DeliveryAudit.Roster
/-!
# Reports

A report sums up a run: how many records were produced, how many lines
have been delivered, how many records were found, how many lines were
more than needed, and how many records are missing, also in per cent,
rounded down.
-/

namespace DeliveryAudit

/-- The figures of a run, with the delay of the log and lines that are
written first. -/
structure Report where
  totalInput : Int
  totalFound : Int
  uniqueFound : Int
  duplicates : Int
  lossPercent : Int
  missing : Int
  logDelay : String
  summary : List String
deriving DecidableEq

namespace Report

/-- The wording of a number of records that is not positive. -/
def notPositiveText (totalInput : Int) : String :=
  match Number.decimal? totalInput with
  | some s => "Total input record count must be positive, got " ++ s
  | none => Number.writingLimitText

/-- The report of a run of `totalInput` records, of which the roster tells
which were found, in `totalFound` lines; none if `totalInput` is not
positive. -/
def ofCounts? (totalInput totalFound : Int) (roster : Roster) (logDelay : String)
    (summary : List String) : Option Report :=
  if totalInput < 1 then
    none
  else
    let unique : Int := roster.foundCount
    let missing := totalInput - unique
    some
      { totalInput := totalInput
        totalFound := totalFound
        uniqueFound := unique
        duplicates := totalFound - unique
        lossPercent := Int.fdiv (missing * 100) totalInput
        missing := missing
        logDelay := logDelay
        summary := summary }

/-- The lines of a report; none if a figure has too many digits to be
written. The missing records have a line only if there are any. -/
def lines? (r : Report) : Option (List String) := do
  let totalInput ← Number.decimal? r.totalInput
  let totalFound ← Number.decimal? r.totalFound
  let uniqueFound ← Number.decimal? r.uniqueFound
  let duplicates ← Number.decimal? r.duplicates
  let lossPercent ← Number.decimal? r.lossPercent
  let missing ←
    if r.missing == 0 then some []
    else (Number.decimal? r.missing).map fun s => ["Number of missing log records:  " ++ s]
  return r.summary ++
    ["Total input record:  " ++ totalInput,
      "Total record in destination:  " ++ totalFound,
      "Unique record in destination:  " ++ uniqueFound,
      "Duplicate records:  " ++ duplicates,
      "Log Delay:  " ++ r.logDelay,
      "Log Loss:  " ++ lossPercent ++ " %"] ++ missing

/-- A report in writing. -/
def text? (r : Report) : Option String := r.lines?.map ("\n".intercalate ·)

end Report

end DeliveryAudit
