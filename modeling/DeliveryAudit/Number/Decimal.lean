/-!
# Integers in decimal, up to a limit

An integer of more than 4300 digits is neither written in decimal nor
read from it.
-/

namespace DeliveryAudit.Number

/-- The most decimal digits that are written or read. -/
def digitLimit : Nat := 4300

/-- The decimal form of an integer, when it has no more than the
permitted digits. -/
def decimal? (n : Int) : Option String :=
  if (toString n.natAbs).length ≤ digitLimit then some (toString n) else none

/-- What is said of an integer with too many digits to be written. -/
def writingLimitText : String :=
  "Exceeds the limit (4300 digits) for integer string conversion; " ++
    "use sys.set_int_max_str_digits() to increase the limit"

/-- What is said of a numeral with `digits` digits, too many to be
read. -/
def readingLimitText (digits : Nat) : String :=
  "Exceeds the limit (4300 digits) for integer string conversion: value has " ++
    toString digits ++ " digits; use sys.set_int_max_str_digits() to increase the limit"

end DeliveryAudit.Number
