/-!
# Rounding to binary64

A quotient of natural numbers is rounded to the nearest binary64 number,
a tie going to the even neighbour, and a binary64 number is taken apart
into an integer times a power of two. All of it is exact arithmetic.
-/

namespace DeliveryAudit.Number

/-- The integer nearest to `num / den`, a tie going to the even one. -/
def roundEven (num den : Nat) : Nat :=
  let q := num / den
  let r := num % den
  if 2 * r < den then q
  else if den < 2 * r then q + 1
  else q + q % 2

/-- `n * 2 ^ e` as a quotient. -/
def scale (n : Nat) (e : Int) : Nat × Nat :=
  match e with
  | .ofNat k => (n * Nat.pow 2 k, 1)
  | .negSucc k => (n, Nat.pow 2 (k + 1))

/-- The weight of the first bit of a mantissa, which is not written, and
of the last bit of the exponent. -/
def hiddenBit : Nat := 0x10000000000000

/-- The weight of the sign. -/
def signBit : Nat := 0x8000000000000000

/-- The sixty-three lower bits of infinity. -/
def infinityBits : Nat := 0x7FF0000000000000

/-- The sixty-three lower bits of the binary64 number nearest to
`num / den`. -/
def nearestBits (num den : Nat) : Nat :=
  if num == 0 || den == 0 then
    0
  else
    let k : Int := (num.log2 : Int) - den.log2
    -- The exponent of the last bit is `low` or one more.
    let low := max (k - 53) (-1074)
    let inUnits (e : Int) : Nat × Nat :=
      match e with
      | .ofNat j => (num, den * Nat.pow 2 j)
      | .negSucc j => (num * Nat.pow 2 (j + 1), den)
    let (a, b) := inUnits low
    let e := if 2 * hiddenBit ≤ a / b then low + 1 else low
    -- A mantissa that is rounded up to the next power carries into the exponent by itself.
    let (a, b) := inUnits e
    min ((e + 1074).toNat * hiddenBit + roundEven a b) infinityBits

/-- The binary64 number with these lower bits and this sign. -/
def ofBits (negative : Bool) (bits : Nat) : Float :=
  Float.ofBits (UInt64.ofNat (bits + if negative then signBit else 0))

/-- The binary64 number nearest to `num / den`, or to its negative. -/
def nearest (negative : Bool) (num den : Nat) : Float :=
  ofBits negative (nearestBits num den)

/-- The binary64 number nearest to an integer; none if it lies beyond
the largest finite one. -/
def ofInt? (n : Int) : Option Float :=
  let bits := nearestBits n.natAbs 1
  if bits == infinityBits then none else some (ofBits (n < 0) bits)

/-- The binary64 number nearest to `digits * 10 ^ exponent`, or to its
negative. -/
def ofDecimal (negative : Bool) (digits : Nat) (exponent : Int) : Float :=
  if digits == 0 then
    ofBits negative 0
  else
    -- Far out of range the power of ten is not worth computing.
    let size : Int := (Nat.log2 digits : Int) * 30103 / 100000
    if 310 < size + exponent then
      ofBits negative infinityBits
    else if size + exponent < -330 then
      ofBits negative 0
    else
      match exponent with
      | .ofNat k => nearest negative (digits * Nat.pow 10 k) 1
      | .negSucc k => nearest negative digits (Nat.pow 10 (k + 1))

/-- A binary64 number is not a number, infinite, or `mantissa * 2 ^
exponent` with a sign. -/
inductive Parts where
  | nan
  | infinite (negative : Bool)
  | finite (negative : Bool) (mantissa : Nat) (exponent : Int)

/-- The sign bit and the other sixty-three. -/
def signAndBits (x : Float) : Bool × Nat :=
  let b := x.toBits.toNat
  (signBit ≤ b, b % signBit)

/-- A binary64 number taken apart. -/
def parts (x : Float) : Parts :=
  let (negative, bits) := signAndBits x
  let field : Nat := bits / hiddenBit
  let fraction : Nat := bits % hiddenBit
  if field == 0x7FF then
    if fraction == 0 then .infinite negative else .nan
  else if field == 0 then
    .finite negative fraction (-1074)
  else
    .finite negative (hiddenBit + fraction) ((field : Int) - 1075)

/-- The integer part, toward zero, of a finite number. -/
def truncate (negative : Bool) (mantissa : Nat) (exponent : Int) : Int :=
  let (num, den) := scale mantissa exponent
  let n : Int := ((num / den : Nat) : Int)
  if negative then -n else n

end DeliveryAudit.Number
