import DeliveryAudit.Calendar
import DeliveryAudit.Number.Numeral
/-!
# Timestamps

A timestamp is a date, or a date and a time of day, which may carry a
fraction of a second and its distance from universal time.
-/

namespace DeliveryAudit.Yaml

/-- A timestamp as written, with its numbers not yet checked. `padded`
tells whether month and day both have two digits. -/
structure Timestamp where
  moment : Moment
  hasTime : Bool
  padded : Bool

namespace Timestamp

/-- A number of `least` to `most` digits at the front of a text, how many
digits it has, and what follows it. -/
def digits (least most : Nat) (cs : List Char) : Option (Nat × Nat × List Char) :=
  let ds := (cs.take most).takeWhile Char.isDigit
  if ds.length < least then none else some (Number.decimalValue ds, ds.length, cs.drop ds.length)

/-- What follows a character at the front of a text. -/
def mark (c : Char) (cs : List Char) : Option (List Char) :=
  if cs.head? == some c then some cs.tail else none

/-- Whether a character is a space or a tab. -/
def isBlank (c : Char) : Bool := c == ' ' || c == '\t'

/-- The fraction of a second at the front of a text, in microseconds, and
what follows it. -/
def fraction (cs : List Char) : Nat × List Char :=
  match cs with
  | '.' :: rest =>
    let ds := rest.takeWhile Char.isDigit
    (Number.decimalValue ((ds ++ List.replicate 6 '0').take 6), rest.drop ds.length)
  | _ => (0, cs)

/-- The distance from universal time that is all of a text, in
seconds. -/
def offset? (cs : List Char) : Option (Option Int) :=
  match cs.dropWhile isBlank with
  | [] => if cs.isEmpty then some none else none
  | ['Z'] => some (some 0)
  | sign :: rest =>
    if sign == '+' || sign == '-' then do
      let (hours, _, rest) ← digits 1 2 rest
      let minutes ← if rest.isEmpty then some 0 else do
        let (minutes, _, rest) ← digits 2 2 (← mark ':' rest)
        if rest.isEmpty then some minutes else none
      let seconds : Int := (hours * 60 + minutes) * 60
      return some (if sign == '-' then -seconds else seconds)
    else
      none

/-- What follows the blanks, or the letter, between a date and a time of
day. -/
def afterDate (cs : List Char) : Option (List Char) :=
  match cs with
  | c :: rest =>
    if c == 'T' || c == 't' then some rest
    else if isBlank c then some (rest.dropWhile isBlank)
    else none
  | [] => none

/-- The timestamp that a text is. -/
def ofChars? (cs : List Char) : Option Timestamp := do
  let (year, _, cs) ← digits 4 4 cs
  let (month, monthDigits, cs) ← digits 1 2 (← mark '-' cs)
  let (day, dayDigits, cs) ← digits 1 2 (← mark '-' cs)
  let padded := monthDigits == 2 && dayDigits == 2
  let date : Date := ⟨year, month, day⟩
  if cs.isEmpty then
    return ⟨⟨date, 0, 0, 0, 0, none⟩, false, padded⟩
  let (hour, _, cs) ← digits 1 2 (← afterDate cs)
  let (minute, _, cs) ← digits 2 2 (← mark ':' cs)
  let (second, _, cs) ← digits 2 2 (← mark ':' cs)
  let (microsecond, cs) := fraction cs
  let offset ← offset? cs
  return ⟨⟨date, hour, minute, second, microsecond, offset⟩, true, padded⟩

/-- The first part of a timestamp that is out of range, if one is. -/
def check (t : Timestamp) : Option CalendarFault :=
  if t.hasTime then
    match t.moment.offset with
    | some seconds =>
      if 86400 ≤ seconds.natAbs then some (.offset seconds) else t.moment.check
    | none => t.moment.check
  else
    t.moment.date.check

end Timestamp

end DeliveryAudit.Yaml
