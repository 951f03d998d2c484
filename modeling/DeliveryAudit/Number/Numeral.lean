import DeliveryAudit.Number.Decimal
import DeliveryAudit.Number.Rounding
import DeliveryAudit.Text.Blank
import DeliveryAudit.Text.Digit
/-!
# Numerals

Integers and reals as people write them: blanks around them, a sign, the
decimal digits of any script, and single underscores between digits. An
integer may be asked for in base two, eight or sixteen, and may then
carry the base's mark.
-/

namespace DeliveryAudit.Number

/-- The ASCII character that stands for a code point in a numeral: digits
of every script stand for the ASCII ones and wide blanks for a space. -/
def foldCharacter (p : CodePoint) : Option Char :=
  let n := p.value
  if n < 0x7F then some (Char.ofNat n)
  else if Text.isWideBlank n then some ' '
  else (Text.digitValue? n).map fun d => Char.ofNat (48 + d)

/-- A text without the blanks around it. -/
def trimBlanks (cs : List Char) : List Char :=
  let blank (c : Char) : Bool := Text.isAsciiBlank c.toNat
  ((cs.dropWhile blank).reverse.dropWhile blank).reverse

/-- The characters of a numeral, folded to ASCII and trimmed. A code point
that no numeral has ends the text, and a question mark stands for it and
all that follows. -/
def folded (t : Text) : List Char :=
  let known := t.takeWhile fun p => (foldCharacter p).isSome
  let cut := if known.length < t.length then ['?'] else []
  trimBlanks (known.filterMap foldCharacter ++ cut)

/-- The value of an ASCII digit or letter. -/
def digitOf (c : Char) : Nat :=
  let n := c.toNat
  if 48 ≤ n && n ≤ 57 then n - 48
  else if 97 ≤ n && n ≤ 122 then n - 87
  else if 65 ≤ n && n ≤ 90 then n - 55
  else 99

/-- Why a text is no integer. -/
inductive IntegerFault where
  | malformed
  | tooLong (digits : Nat)
deriving DecidableEq

/-- The digits in a base at the front of a text, with single underscores
between them: how many there are, the value, and what follows. -/
def digitsIn (base : Nat) (count value : Nat) (afterDigit : Bool) :
    List Char → Option (Nat × Nat × List Char)
  | [] => if afterDigit then some (count, value, []) else none
  | c :: cs =>
    if c == '_' then
      if afterDigit then digitsIn base count value false cs else none
    else if digitOf c < base then
      digitsIn base (count + 1) (value * base + digitOf c) true cs
    else if afterDigit then
      some (count, value, c :: cs)
    else
      none

/-- A sign, and what follows it. -/
def splitSign : List Char → Bool × List Char
  | '-' :: cs => (true, cs)
  | '+' :: cs => (false, cs)
  | cs => (false, cs)

/-- What follows the mark of a base, with the one underscore that may
follow the mark. -/
def dropBaseMark (base : Nat) (cs : List Char) : List Char :=
  match cs with
  | '0' :: m :: rest =>
    if (base == 16 && (m == 'x' || m == 'X')) || (base == 8 && (m == 'o' || m == 'O')) ||
        (base == 2 && (m == 'b' || m == 'B')) then
      match rest with
      | '_' :: rest => rest
      | _ => rest
    else
      cs
  | _ => cs

/-- The integer a text denotes in a base. Only base ten limits the number
of digits, and there the limit goes before what follows the digits. -/
def integer (base : Nat) (t : Text) : Except IntegerFault Int :=
  let (negative, cs) := splitSign (folded t)
  match digitsIn base 0 0 false (dropBaseMark base cs) with
  | none => .error .malformed
  | some (count, value, rest) =>
    if base == 10 && digitLimit < count then
      .error (.tooLong count)
    else if rest.isEmpty then
      .ok (if negative then -(value : Int) else value)
    else
      .error .malformed

/-- A text without its underscores, each of which has to stand between
two digits. -/
def dropUnderscores (previous : Char) : List Char → Option (List Char)
  | [] => if previous == '_' then none else some []
  | c :: cs =>
    if c == '_' then
      if previous.isDigit then dropUnderscores c cs else none
    else if previous == '_' && !c.isDigit then
      none
    else
      (dropUnderscores c cs).map (c :: ·)

/-- The value of a run of ASCII digits. -/
def decimalValue (cs : List Char) : Nat :=
  cs.foldl (fun n c => 10 * n + (c.toNat - 48)) 0

/-- The exponent part of a numeral: nothing, or a mark, a sign and
digits. -/
def exponentPart : List Char → Option Int
  | [] => some 0
  | c :: cs =>
    if c == 'e' || c == 'E' then
      let (negative, digits) := splitSign cs
      if digits.isEmpty || !digits.all Char.isDigit then none
      else
        let n : Int := decimalValue digits
        some (if negative then -n else n)
    else
      none

/-- An unsigned real numeral. -/
def unsignedReal? (negative : Bool) (cs : List Char) : Option Float :=
  let word := String.ofList (cs.map Char.toLower)
  if word == "inf" || word == "infinity" then
    some (ofBits negative infinityBits)
  else if word == "nan" then
    some (ofBits negative (infinityBits + 0x8000000000000))
  else
    let whole := cs.takeWhile Char.isDigit
    let rest := cs.dropWhile Char.isDigit
    let (places, rest) := match rest with
      | '.' :: rest => (rest.takeWhile Char.isDigit, rest.dropWhile Char.isDigit)
      | rest => ([], rest)
    if whole.isEmpty && places.isEmpty then
      none
    else
      (exponentPart rest).map fun e =>
        ofDecimal negative (decimalValue (whole ++ places)) (e - places.length)

/-- The real number a text denotes. -/
def real? (t : Text) : Option Float := do
  let cs ← dropUnderscores ' ' (folded t)
  let (negative, cs) := splitSign cs
  unsignedReal? negative cs

end DeliveryAudit.Number
