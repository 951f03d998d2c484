import DeliveryAudit.Compression.Crc32
import DeliveryAudit.Compression.Inflate
import DeliveryAudit.Text.Quoted
/-!
# Gzip files

A gzip file is a run of members, with zeros allowed between them. A
member has a header, deflated data, and a trailer with the check and the
length of the contents. The header's optional parts are skipped.
-/

namespace DeliveryAudit.Gzip

/-- Why bytes are no gzip file. -/
inductive Fault where
  /-- A member does not start with the two magic bytes. -/
  | magic (found : List UInt8)
  | method
  | ended
  | check
  | length
  /-- The deflated data are corrupt. -/
  | data (c : Inflate.Corruption)
deriving DecidableEq

/-- The wording of a fault. -/
def Fault.message : Fault → String
  | magic found => "Not a gzipped file (" ++ Bytes.quoted found ++ ")"
  | method => "Unknown compression method"
  | ended => "Compressed file ended before the end-of-stream marker was reached"
  | check => "CRC check failed"
  | length => "Incorrect length of data produced"
  | data c => "Error -3 while decompressing data: " ++ c.text

/-- What follows the first `n` bytes. -/
def skip (n : Nat) (bs : List UInt8) : Except Fault (List UInt8) :=
  if bs.length < n then .error .ended else .ok (bs.drop n)

/-- What follows a text that a zero ends. -/
def skipText (bs : List UInt8) : List UInt8 := (bs.dropWhile (· != 0)).drop 1

/-- The number in bytes, low byte first. -/
def littleEndian (bs : List UInt8) : Nat := bs.foldr (fun b n => b.toNat + 256 * n) 0

/-- What follows the header of a member. -/
def skipHeader (bs : List UInt8) : Except Fault (List UInt8) := do
  if bs.take 2 != [0x1F, 0x8B] then throw (.magic (bs.take 2))
  let fixed := bs.drop 2
  let bs ← skip 8 fixed
  if fixed.getD 0 0 != 8 then throw .method
  let flags := fixed.getD 1 0
  -- An extra field, a file name, a comment and a check of the header, in this order.
  let bs ← if flags &&& 4 == 0 then pure bs else do
    let rest ← skip 2 bs
    skip (littleEndian (bs.take 2)) rest
  let bs := if flags &&& 8 == 0 then bs else skipText bs
  let bs := if flags &&& 16 == 0 then bs else skipText bs
  if flags &&& 2 == 0 then pure bs else skip 2 bs

/-- The contents of the first member, and what follows its trailer and
the zeros after that. -/
def member (bs : List UInt8) : Except Fault (Array UInt8 × List UInt8) := do
  let bs ← skipHeader bs
  match Inflate.inflate bs with
  | .error .ended => throw .ended
  | .error (.corrupt c) => throw (.data c)
  | .ok (contents, rest) =>
    let after ← skip 8 rest
    if littleEndian (rest.take 4) != (Crc32.ofBytes contents).toNat then throw .check
    if littleEndian ((rest.drop 4).take 4) != contents.size % 0x100000000 then throw .length
    return (contents, after.dropWhile (· == 0))

/-- The contents of the members, onto those before. Every member takes a
byte at least, so that `budget` is not used up when it starts above the
number of bytes. -/
def members : Nat → Array UInt8 → List UInt8 → Except Fault (Array UInt8)
  | _, out, [] => .ok out
  | 0, _, _ => .error .ended
  | budget + 1, out, bs =>
    match member bs with
    | .error f => .error f
    | .ok (contents, rest) => members budget (out ++ contents) rest

/-- The contents of a gzip file. -/
def decompress (bs : List UInt8) : Except Fault (List UInt8) :=
  (members (bs.length + 1) #[] bs).map Array.toList

end DeliveryAudit.Gzip
