import DeliveryAudit.Yaml.Fault
/-!
# The text of a file

A file is read in blocks. Its bytes are decoded as UTF-8 in blocks of
8192 or more, every line break becomes a newline, and the characters are
handed on in blocks of 4096, the first two together. Only characters that
can be printed, tabs, line breaks and the byte order mark are accepted. A
block that holds a fault is not handed on: `Source.text` ends before it.
-/

namespace DeliveryAudit.Yaml

/-- The readable text of a file, and the fault that follows it, if one
does. -/
structure Source where
  text : List Char
  fault : Option Fault

namespace Source

/-- How many bytes are decoded at a time. -/
def byteBlock : Nat := 8192

/-- How many characters are handed on at a time. -/
def charBlock : Nat := 4096

/-- How many characters of a text are handed on before the block that
holds the character at this place. -/
def before (place : Nat) : Nat :=
  if place < 2 * charBlock then 0 else place / charBlock * charBlock

/-- Whether a character is accepted. -/
def isAccepted (c : Char) : Bool :=
  let n := c.toNat
  n == 9 || n == 10 || n == 13 || (0x20 ≤ n && n ≤ 0x7E) || n == 0x85 ||
    (0xA0 ≤ n && n ≤ 0xD7FF) || (0xE000 ≤ n && n ≤ 0xFFFD) || 0x10000 ≤ n

/-- Every line break of a carriage return, alone or before a newline, as
a newline, onto the characters before, latest first. -/
def unifyBreaks (seen : List Char) : List Char → List Char
  | [] => seen.reverse
  | '\r' :: '\n' :: cs => unifyBreaks ('\n' :: seen) cs
  | '\r' :: cs => unifyBreaks ('\n' :: seen) cs
  | c :: cs => unifyBreaks (c :: seen) cs

/-- How far the decoding of a file has come. -/
structure Decoding where
  /-- The bytes still to come. -/
  rest : List UInt8
  /-- The bytes at the end of the last block that start a character. -/
  kept : List UInt8
  /-- Whether a carriage return is kept as well: a newline may follow. -/
  keptReturn : Bool
  /-- How many bytes the last block had, and how many characters they
  made. -/
  bytes : Nat
  chars : Nat
  /-- The characters of the blocks, latest block first. -/
  blocks : List (List Char)
  /-- How many characters these are. -/
  count : Nat

/-- How many bytes are decoded next: a block, or more if characters as
wide as those of the last block are to fill up the next block of
characters. -/
def Decoding.nextSize (d : Decoding) : Nat :=
  max byteBlock (d.bytes * (charBlock - d.count % charBlock) / d.chars)

/-- Decoding block by block, up to the first block that cannot be
decoded. A block without bytes is the last one. -/
def decodeBlocks : Nat → Decoding → List (List Char) × Option Utf8.Fault
  | 0, d => (d.blocks, none)
  | budget + 1, d =>
    let block := d.rest.take d.nextSize
    let atEnd := block.isEmpty
    let bytes := d.kept ++ block
    let (cs, fault) := Utf8.decodeUntil bytes
    match fault.filter fun f => atEnd || f.reason != .ended with
    | some f => (d.blocks, some f)
    | none =>
      let returns := d.keptReturn && (atEnd || !cs.isEmpty)
      let cs := if returns then '\r' :: cs else cs
      let keeps := !atEnd && cs.getLast? == some '\r'
      let cs := unifyBreaks [] (if keeps then cs.dropLast else cs)
      let blocks := cs :: d.blocks
      if atEnd then
        (blocks, none)
      else
        decodeBlocks budget {
          rest := d.rest.drop block.length
          kept := (fault.map fun f => bytes.drop f.first).getD []
          keptReturn := keeps || (d.keptReturn && !returns)
          bytes := block.length
          chars := cs.length
          blocks := blocks
          count := d.count + cs.length }

/-- The text of a file. -/
def ofBytes (bs : List UInt8) : Source :=
  let (blocks, undecodable) :=
    decodeBlocks (bs.length / byteBlock + 2) ⟨bs, [], false, 0, 0, [], 0⟩
  let decoded := blocks.reverse.flatten
  let text := match undecodable with
    | none => decoded
    | some _ => decoded.take (before decoded.length)
  -- Characters that could not be decoded come after all that could, and are met later.
  match text.findIdx? fun c => !isAccepted c with
  | some i =>
    ⟨text.take (before i), some (.character (text.getD i ' ').toNat i)⟩
  | none => ⟨text, undecodable.map Fault.undecodable⟩

end Source

end DeliveryAudit.Yaml
