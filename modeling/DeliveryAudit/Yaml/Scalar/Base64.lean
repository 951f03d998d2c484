import DeliveryAudit.Yaml.Fault
/-!
# Base64

Four digits of six bits are three bytes. Characters that are no digits
are passed over, and padding ends the data where it completes a group.
-/

namespace DeliveryAudit.Yaml.Base64

/-- The value of a digit. -/
def digit? (c : Char) : Option Nat :=
  if 'A' ≤ c && c ≤ 'Z' then some (c.toNat - 65)
  else if 'a' ≤ c && c ≤ 'z' then some (c.toNat - 71)
  else if c.isDigit then some (c.toNat + 4)
  else if c == '+' then some 62
  else if c == '/' then some 63
  else none

/-- The bytes of a text, onto those before, latest first. `read` digits
of the current group have been read, `kept` holds the bits of the last
one that belong to no byte yet, and `pads` counts the padding since. -/
def decodeFrom (out : List UInt8) (read kept pads : Nat) :
    List Char → Except Base64Fault (List UInt8)
  | [] =>
    if read == 0 then .ok out.reverse
    else if read == 1 then .error (.strayDigit (out.length / 3 * 4 + 1))
    else .error .padding
  | c :: cs =>
    if c == '=' then
      if 2 ≤ read && 4 ≤ read + pads + 1 then .ok out.reverse
      else decodeFrom out read kept (if 2 ≤ read then pads + 1 else pads) cs
    else
      match digit? c with
      | none => decodeFrom out read kept pads cs
      | some d =>
        if read == 0 then decodeFrom out 1 d 0 cs
        else if read == 1 then decodeFrom (UInt8.ofNat (kept * 4 + d / 16) :: out) 2 (d % 16) 0 cs
        else if read == 2 then decodeFrom (UInt8.ofNat (kept * 16 + d / 4) :: out) 3 (d % 4) 0 cs
        else decodeFrom (UInt8.ofNat (kept * 64 + d) :: out) 0 0 0 cs

/-- The bytes of a text. -/
def decode (cs : List Char) : Except Base64Fault (List UInt8) := decodeFrom [] 0 0 0 cs

end DeliveryAudit.Yaml.Base64
