/-!
# Blank characters around numerals

The blanks that may stand before and after a numeral: the six ASCII ones,
and every other character of the Unicode property White_Space.
-/

namespace DeliveryAudit.Text

/-- Whether the ASCII character with number `n` is blank. -/
def isAsciiBlank (n : Nat) : Bool := n == 0x20 || (9 ≤ n && n ≤ 13)

/-- Whether the character with number `n`, beyond ASCII, is blank. -/
def isWideBlank (n : Nat) : Bool :=
  n == 0x85 || n == 0xA0 || n == 0x1680 || (0x2000 ≤ n && n ≤ 0x200A) || n == 0x2028 ||
    n == 0x2029 || n == 0x202F || n == 0x205F || n == 0x3000

end DeliveryAudit.Text
