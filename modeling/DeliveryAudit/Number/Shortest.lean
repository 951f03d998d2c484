import DeliveryAudit.Number.Rounding
/-!
# The shortest decimal that reads back

A finite binary64 number is written with the fewest digits that are
rounded to it again, and of those decimals the nearest is taken. Numbers
from `0.0001` up to `10 ^ 16` are written positionally and always with a
point; all others with an exponent of at least two digits.
-/

namespace DeliveryAudit.Number

/-- `10 ^ e` as a quotient. -/
def powerOfTen (e : Int) : Nat × Nat :=
  match e with
  | .ofNat k => (Nat.pow 10 k, 1)
  | .negSucc k => (1, Nat.pow 10 (k + 1))

/-- The exponent of the first decimal digit of `num / den`. -/
def decimalExponent (num den : Nat) : Int :=
  -- `1233 / 4096` is the logarithm of two, closely enough to be off by two at most.
  let guess := Int.fdiv (((num.log2 : Int) - den.log2) * 1233) 4096
  let atLeast (e : Int) : Bool :=
    let (a, b) := powerOfTen e
    a * den ≤ num * b
  if atLeast (guess + 2) then guess + 2
  else if atLeast (guess + 1) then guess + 1
  else if atLeast guess then guess
  else if atLeast (guess - 1) then guess - 1
  else guess - 2

/-- The decimal with last digit at `10 ^ e` that lies next to `num / den`
and is rounded to `bits`: the nearer of two, and of two that are equally
near the even one. -/
def neighbour? (num den bits : Nat) (e : Int) : Option Nat :=
  let (a, b) := powerOfTen e
  let below := num * b / (den * a)
  let twice := 2 * (num * b)
  let middle := (2 * below + 1) * (den * a)
  let hit (d : Nat) : Bool := nearestBits (d * a) b == bits
  let nearerBelow : Bool := twice < middle || (twice == middle && below % 2 == 0)
  if hit below then
    if hit (below + 1) && !nearerBelow then some (below + 1) else some below
  else if hit (below + 1) then some (below + 1)
  else none

/-- The first of the grids `10 ^ e`, `10 ^ (e - 1)`, … that has a decimal
rounded to `bits`. -/
def firstHit (num den bits : Nat) : Nat → Int → Nat × Int
  | 0, e => (num * (powerOfTen e).2 / (den * (powerOfTen e).1), e)
  | tries + 1, e =>
    match neighbour? num den bits e with
    | some d => (d, e)
    | none => firstHit num den bits tries (e - 1)

/-- As many digits tell every binary64 number from all others. -/
def mostDigits : Nat := 17

/-- The shortest digits of the positive number `num / den`, whose bits
are given, and the exponent of the last of them. -/
def shortestDigits (num den bits : Nat) : Nat × Int :=
  firstHit num den bits mostDigits (decimalExponent num den)

/-- Digits without their trailing zeros. -/
def dropTrailingZeros (cs : List Char) : List Char :=
  (cs.reverse.dropWhile (· == '0')).reverse

/-- Digits `d₁ d₂ …`, read as `0.d₁d₂… * 10 ^ point`, in writing. -/
def layout (digits : List Char) (point : Int) : String :=
  if -4 < point && point ≤ 16 then
    if point ≤ 0 then
      "0." ++ String.ofList (List.replicate (-point).toNat '0' ++ digits)
    else
      let n := point.toNat
      if digits.length ≤ n then
        String.ofList (digits ++ List.replicate (n - digits.length) '0') ++ ".0"
      else
        String.ofList (digits.take n) ++ "." ++ String.ofList (digits.drop n)
  else
    let exponent := point - 1
    let size := toString exponent.natAbs
    let tail := (if exponent < 0 then "e-" else "e+") ++
      (if size.length < 2 then "0" ++ size else size)
    match digits with
    | [] => "0" ++ tail
    | [d] => String.ofList [d] ++ tail
    | d :: ds => String.ofList [d] ++ "." ++ String.ofList ds ++ tail

/-- A binary64 number in writing. -/
def shortest (x : Float) : String :=
  match parts x with
  | .nan => "nan"
  | .infinite negative => if negative then "-inf" else "inf"
  | .finite negative mantissa exponent =>
    let sign := if negative then "-" else ""
    if mantissa == 0 then
      sign ++ "0.0"
    else
      let (num, den) := scale mantissa exponent
      let (d, e) := shortestDigits num den (signAndBits x).2
      let digits := (toString d).toList
      sign ++ layout (dropTrailingZeros digits) (digits.length + e)

end DeliveryAudit.Number
