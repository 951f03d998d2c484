/-!
# Dates and moments

A date, and a moment on a date: a time of day with microseconds, and the
distance from universal time where it is known. `Date.check` and
`Moment.check` say what is out of range.
-/

namespace DeliveryAudit

/-- A day of the Gregorian calendar. -/
structure Date where
  year : Nat
  month : Nat
  day : Nat
deriving DecidableEq

/-- A time of day on a date. `offset` is the distance from universal time
in seconds. -/
structure Moment where
  date : Date
  hour : Nat
  minute : Nat
  second : Nat
  microsecond : Nat
  offset : Option Int
deriving DecidableEq

/-- What can be out of range in a date, a moment, or an offset of that
many seconds. -/
inductive CalendarFault where
  | year (n : Nat)
  | month
  | day
  | hour
  | minute
  | second
  | offset (seconds : Int)
deriving DecidableEq

namespace Date

/-- Whether a year has a leap day. -/
def isLeap (year : Nat) : Bool := year % 4 == 0 && (year % 100 != 0 || year % 400 == 0)

/-- The number of days of a month. -/
def daysIn (year month : Nat) : Nat :=
  if month == 2 then (if isLeap year then 29 else 28)
  else if month == 4 || month == 6 || month == 9 || month == 11 then 30
  else 31

/-- The first part of a date that is out of range, if one is. -/
def check (d : Date) : Option CalendarFault :=
  if d.year < 1 || 9999 < d.year then some (.year d.year)
  else if d.month < 1 || 12 < d.month then some .month
  else if d.day < 1 || daysIn d.year d.month < d.day then some .day
  else none

/-- Days before a year. -/
def daysBeforeYear (year : Nat) : Nat :=
  let y := year - 1
  y * 365 + y / 4 - y / 100 + y / 400

/-- The number of the day, counted from the first day of year one. -/
def ordinal (d : Date) : Nat :=
  (List.range (d.month - 1)).foldl (fun n m => n + daysIn d.year (m + 1))
    (daysBeforeYear d.year) + d.day

/-- A date in writing. -/
def text (d : Date) : String :=
  "datetime.date(" ++ toString d.year ++ ", " ++ toString d.month ++ ", " ++ toString d.day ++ ")"

end Date

namespace Moment

/-- The first part of a moment that is out of range, if one is. -/
def check (m : Moment) : Option CalendarFault :=
  m.date.check
    <|> (if 23 < m.hour then some .hour else none)
    <|> (if 59 < m.minute then some .minute else none)
    <|> (if 59 < m.second then some .second else none)

/-- Microseconds from the start of year one, on the clock the moment is
read from. -/
def localMicroseconds (m : Moment) : Int :=
  (((m.date.ordinal * 24 + m.hour) * 60 + m.minute) * 60 + m.second) * 1000000 + m.microsecond

/-- Whether two moments are the same: both on clocks whose distance from
universal time is known, or both not. -/
def same (m n : Moment) : Bool :=
  match m.offset, n.offset with
  | none, none => m.localMicroseconds == n.localMicroseconds
  | some a, some b =>
    m.localMicroseconds - a * 1000000 == n.localMicroseconds - b * 1000000
  | _, _ => false

/-- A length of time in writing: whole days, rounded down, and seconds. -/
def durationText (seconds : Int) : String :=
  let days := Int.fdiv seconds 86400
  let rest := Int.fmod seconds 86400
  let parts := (if days == 0 then [] else ["days=" ++ toString days]) ++
    (if rest == 0 then [] else ["seconds=" ++ toString rest])
  "datetime.timedelta(" ++ (if parts.isEmpty then "0" else ", ".intercalate parts) ++ ")"

/-- An offset in writing. -/
def offsetText (seconds : Int) : String :=
  if seconds == 0 then "datetime.timezone.utc"
  else "datetime.timezone(" ++ durationText seconds ++ ")"

/-- A moment in writing; seconds and microseconds are left out from the
end when they are zero. -/
def text (m : Moment) : String :=
  let tail :=
    if m.microsecond != 0 then [m.second, m.microsecond]
    else if m.second != 0 then [m.second]
    else []
  let numbers := [m.date.year, m.date.month, m.date.day, m.hour, m.minute] ++ tail
  "datetime.datetime(" ++ ", ".intercalate (numbers.map toString) ++
    (match m.offset with
      | none => ""
      | some seconds => ", tzinfo=" ++ offsetText seconds) ++ ")"

end Moment

/-- The wording of what is out of range. -/
def CalendarFault.message : CalendarFault → String
  | year n => "year " ++ toString n ++ " is out of range"
  | month => "month must be in 1..12"
  | day => "day is out of range for month"
  | hour => "hour must be in 0..23"
  | minute => "minute must be in 0..59"
  | second => "second must be in 0..59"
  | offset seconds =>
    "offset must be a timedelta strictly between -timedelta(hours=24) and " ++
      "timedelta(hours=24), not " ++
      Moment.durationText seconds ++ "."

end DeliveryAudit
