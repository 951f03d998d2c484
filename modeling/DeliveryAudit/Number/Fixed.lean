import DeliveryAudit.Number.Rounding
/-!
# Seconds with one decimal place

A binary64 number is written with one place after the point. The exact
value is rounded, and a tie goes to the even digit.
-/

namespace DeliveryAudit.Number

/-- A binary64 number with one place after the point. -/
def tenths (x : Float) : String :=
  match parts x with
  | .nan => "nan"
  | .infinite negative => if negative then "-inf" else "inf"
  | .finite negative mantissa exponent =>
    let (num, den) := scale mantissa exponent
    let n := roundEven (10 * num) den
    (if negative then "-" else "") ++ toString (n / 10) ++ "." ++ toString (n % 10)

end DeliveryAudit.Number
