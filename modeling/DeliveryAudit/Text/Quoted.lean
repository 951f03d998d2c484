import DeliveryAudit.Text.Printable
/-!
# Quoted text

A quoted text names a text on one line in printable characters only. It
stands between single quotes, or between double quotes when it holds a
single quote and no double one. The quote, the backslash, tab, newline
and carriage return are escaped by name and every other code point that
is not printable by its number, in two, four or eight hexadecimal digits.
Byte strings are quoted likewise, with the mark `b` in front.
-/

namespace DeliveryAudit

namespace Text

/-- `n` in lower-case hexadecimal, with at least `width` digits. -/
def hex (width n : Nat) : List Char :=
  let digits := Nat.toDigits 16 n
  List.replicate (width - digits.length) '0' ++ digits

/-- The quote for a text that holds, or does not hold, a single and a
double quote. -/
def quoteFor (single double : Bool) : Char :=
  if single && !double then '"' else '\''

/-- One code point between the quotes `q`. -/
def escape (q : Char) (p : CodePoint) : List Char :=
  match p with
  | .scalar c =>
    if c == q || c == '\\' then ['\\', c]
    else if c == '\n' then ['\\', 'n']
    else if c == '\r' then ['\\', 'r']
    else if c == '\t' then ['\\', 't']
    else if p.isPrintable then [c]
    else if c.toNat < 0x100 then '\\' :: 'x' :: hex 2 c.toNat
    else if c.toNat < 0x10000 then '\\' :: 'u' :: hex 4 c.toNat
    else '\\' :: 'U' :: hex 8 c.toNat
  | .surrogate _ => '\\' :: 'u' :: hex 4 p.value

/-- The characters of a quoted text. -/
def quotedChars (t : Text) : List Char :=
  let q := quoteFor (t.contains (.scalar '\'')) (t.contains (.scalar '"'))
  q :: t.flatMap (escape q) ++ [q]

/-- The quoted form of a text. -/
def quoted (t : Text) : String := String.ofList (quotedChars t)

/-- A text as the error stream shows it: what cannot be encoded stands
there by its number. -/
def shown (t : Text) : String :=
  String.ofList (t.flatMap fun p =>
    match p with
    | .scalar c => [c]
    | .surrogate _ => '\\' :: 'u' :: hex 4 p.value)

end Text

/-- The quoted form of a string. -/
def quoted (s : String) : String := (Text.ofString s).quoted

namespace Bytes

/-- One byte between the quotes `q`. -/
def escape (q : Char) (b : UInt8) : List Char :=
  let c := Char.ofNat b.toNat
  if c == q || c == '\\' then ['\\', c]
  else if c == '\n' then ['\\', 'n']
  else if c == '\r' then ['\\', 'r']
  else if c == '\t' then ['\\', 't']
  else if 0x20 ≤ b.toNat && b.toNat < 0x7F then [c]
  else '\\' :: 'x' :: Text.hex 2 b.toNat

/-- The quoted form of a byte string. -/
def quoted (bs : List UInt8) : String :=
  let q := Text.quoteFor (bs.contains 39) (bs.contains 34)
  String.ofList ('b' :: q :: bs.flatMap (escape q) ++ [q])

end Bytes

end DeliveryAudit
