/-!
# UTF-8

Decoding of a whole byte string, or of its longest decodable part when
more bytes may follow. A fault names the offending bytes and why they
cannot be decoded: the first is no start byte, a later one no
continuation byte, or the data end inside a character.
-/

namespace DeliveryAudit.Utf8

/-- Why bytes cannot be decoded. -/
inductive Reason where
  | start
  | continuation
  | ended
deriving DecidableEq

/-- The bytes from `first` on, `count` of them, cannot be decoded; `lead`
is the first of them. -/
structure Fault where
  first : Nat
  count : Nat
  lead : UInt8
  reason : Reason
deriving DecidableEq

/-- The wording of a reason. -/
def Reason.text : Reason → String
  | .start => "invalid start byte"
  | .continuation => "invalid continuation byte"
  | .ended => "unexpected end of data"

/-- Two lower-case hexadecimal digits. -/
def hexByte (b : UInt8) : String :=
  let digits := Nat.toDigits 16 b.toNat
  String.ofList (List.replicate (2 - digits.length) '0' ++ digits)

/-- The wording of a fault. -/
def Fault.message (f : Fault) : String :=
  if f.count == 1 then
    "'utf-8' codec can't decode byte 0x" ++ hexByte f.lead ++ " in position " ++
      toString f.first ++ ": " ++ f.reason.text
  else
    "'utf-8' codec can't decode bytes in position " ++ toString f.first ++ "-" ++
      toString (f.first + f.count - 1) ++ ": " ++ f.reason.text

/-- One step of decoding. -/
inductive Step where
  /-- A character that takes `size` bytes. -/
  | char (c : Char) (size : Nat)
  /-- The first `count` bytes cannot be decoded. -/
  | bad (count : Nat) (reason : Reason)

/-- Whether a byte continues a character. -/
def isContinuation (b : UInt8) : Bool := 0x80 ≤ b && b ≤ 0xBF

/-- The six bits a continuation byte carries. -/
def payload (b : UInt8) : Nat := b.toNat % 64

/-- The range of the second byte of a three-byte character. -/
def secondOfThree (lead second : UInt8) : Bool :=
  (if lead == 0xE0 then 0xA0 else 0x80) ≤ second && second ≤ (if lead == 0xED then 0x9F else 0xBF)

/-- The range of the second byte of a four-byte character. -/
def secondOfFour (lead second : UInt8) : Bool :=
  (if lead == 0xF0 then 0x90 else 0x80) ≤ second && second ≤ (if lead == 0xF4 then 0x8F else 0xBF)

/-- Decoding of the character that starts with `lead` and goes on in
`rest`. -/
def step (lead : UInt8) (rest : List UInt8) : Step :=
  if lead < 0x80 then
    .char (Char.ofNat lead.toNat) 1
  else if lead < 0xC2 then
    -- `0xC0` and `0xC1` could only lead characters that one byte is enough for.
    .bad 1 .start
  else if lead < 0xE0 then
    match rest with
    | [] => .bad 1 .ended
    | b :: _ =>
      if isContinuation b then .char (Char.ofNat (lead.toNat % 32 * 64 + payload b)) 2
      else .bad 1 .continuation
  else if lead < 0xF0 then
    match rest with
    | [] => .bad 1 .ended
    | b :: rest =>
      if !secondOfThree lead b then .bad 1 .continuation
      else match rest with
        | [] => .bad 2 .ended
        | c :: _ =>
          if isContinuation c then
            .char (Char.ofNat ((lead.toNat % 16 * 64 + payload b) * 64 + payload c)) 3
          else .bad 2 .continuation
  else if lead < 0xF5 then
    match rest with
    | [] => .bad 1 .ended
    | b :: rest =>
      if !secondOfFour lead b then .bad 1 .continuation
      else match rest with
        | [] => .bad 2 .ended
        | c :: rest =>
          if !isContinuation c then .bad 2 .continuation
          else match rest with
            | [] => .bad 3 .ended
            | d :: _ =>
              if isContinuation d then
                .char (Char.ofNat
                  (((lead.toNat % 8 * 64 + payload b) * 64 + payload c) * 64 + payload d)) 4
              else .bad 3 .continuation
  else
    .bad 1 .start

/-- Decoding from the byte at position `at` on, onto the characters read
before, latest first. -/
def decodeFrom (position : Nat) (seen : List Char) :
    List UInt8 → List Char × Option Fault
  | [] => (seen.reverse, none)
  | b :: rest =>
    match step b rest with
    | .char c size => decodeFrom (position + size) (c :: seen) (rest.drop (size - 1))
    | .bad count reason => (seen.reverse, some ⟨position, count, b, reason⟩)
termination_by bs => bs.length
decreasing_by simp only [List.length_drop, List.length_cons]; omega

/-- The characters of a byte string, up to the first fault. -/
def decodeUntil (bs : List UInt8) : List Char × Option Fault := decodeFrom 0 [] bs

/-- The text of a byte string in UTF-8. -/
def decode (bs : List UInt8) : Except Fault (List Char) :=
  match decodeUntil bs with
  | (cs, none) => .ok cs
  | (_, some f) => .error f

/-- The bytes of one character. -/
def encodeChar (c : Char) : List UInt8 := String.utf8EncodeChar c

/-- The bytes of a text in UTF-8. -/
def encode (cs : List Char) : List UInt8 := cs.flatMap encodeChar

end DeliveryAudit.Utf8
