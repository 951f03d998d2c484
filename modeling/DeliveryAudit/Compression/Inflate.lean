/-!
# Inflation

Deflated data are a run of blocks, read bit by bit from the low end of
every byte. A block is stored, or it is coded with fixed or with
transmitted prefix codes, whose symbols are bytes and references to bytes
already written. A fault says what the data break, or that they end too
early.
-/

namespace DeliveryAudit.Inflate

/-- What deflated data break. -/
inductive Corruption where
  | blockType
  | storedLengths
  | symbolCounts
  | codeLengthsSet
  | lengthRepeat
  | noEndOfBlock
  | literalsSet
  | distancesSet
  | literalCode
  | distanceCode
  | distanceTooFar
deriving DecidableEq

/-- The wording of a corruption. -/
def Corruption.text : Corruption → String
  | blockType => "invalid block type"
  | storedLengths => "invalid stored block lengths"
  | symbolCounts => "too many length or distance symbols"
  | codeLengthsSet => "invalid code lengths set"
  | lengthRepeat => "invalid bit length repeat"
  | noEndOfBlock => "invalid code -- missing end-of-block"
  | literalsSet => "invalid literal/lengths set"
  | distancesSet => "invalid distances set"
  | literalCode => "invalid literal/length code"
  | distanceCode => "invalid distance code"
  | distanceTooFar => "invalid distance too far back"

/-- Why data cannot be inflated. -/
inductive Fault where
  | ended
  | corrupt (c : Corruption)
deriving DecidableEq

/-- Bits still to be read: `held` of them in `hold`, low bit first, then
those of the bytes. -/
structure Bits where
  hold : Nat
  held : Nat
  bytes : List UInt8

/-- How many bits there are. -/
def Bits.size (s : Bits) : Nat := s.held + 8 * s.bytes.length

/-- The next `n` bits as a number, low bit first. -/
def Bits.take (n : Nat) (s : Bits) : Except Fault (Nat × Bits) :=
  if n ≤ s.held then
    .ok (s.hold % Nat.pow 2 n, { s with hold := s.hold / Nat.pow 2 n, held := s.held - n })
  else
    match _ : s.bytes with
    | [] => .error .ended
    | b :: rest => Bits.take n ⟨s.hold + b.toNat * Nat.pow 2 s.held, s.held + 8, rest⟩
termination_by s.bytes.length
decreasing_by simp_all

/-- The bits from the next byte on. -/
def Bits.alignToByte (s : Bits) : Bits := { s with hold := 0, held := 0 }

/-- A prefix code: how many words there are of each length, the symbols
in the order of their words, and the length of the longest word. -/
structure Code where
  counts : Array Nat
  symbols : Array Nat
  longest : Nat

/-- The canonical code in which symbol `i` has a word of length
`lengths[i]`, and none if that is zero. -/
def Code.ofLengths (lengths : List Nat) : Code :=
  let counts := (List.range 16).map fun n => if n == 0 then 0 else lengths.count n
  let symbols := (List.range 16).flatMap fun n =>
    if n == 0 then []
    else (lengths.zipIdx.filter fun p => p.1 == n).map fun p => p.2
  { counts := counts.toArray
    symbols := symbols.toArray
    longest := max 1 (lengths.foldl max 0) }

/-- The words of length fifteen that the lengths leave free; none if they
claim more than there are. -/
def freeWords (lengths : List Nat) : Option Nat :=
  (List.range 15).foldlM (fun left i =>
    let taken := lengths.count (i + 1)
    if 2 * left < taken then none else some (2 * left - taken)) 1

/-- Whether the lengths make a code in which every word is used. -/
def isComplete (lengths : List Nat) : Bool :=
  lengths.all (· == 0) || freeWords lengths == some 0

/-- Whether the lengths make a code that is complete, or has one word of
one bit. -/
def isUsable (lengths : List Nat) : Bool :=
  isComplete lengths || ((freeWords lengths).isSome && lengths.foldl max 0 == 1)

/-- The symbol whose word comes next, if a word does. `first` is the first
word of the length tried, `index` the place of its symbol and `word` the
bits read. -/
def Code.decodeFrom (code : Code) (length first index word : Nat) (s : Bits) :
    Except Fault (Option Nat × Bits) :=
  if _ : code.longest < length then
    .ok (none, s)
  else
    match s.take 1 with
    | .error f => .error f
    | .ok (b, s) =>
      -- The words of one length follow each other, and the shorter ones come first.
      let word := 2 * word + b
      let first := 2 * first
      let count := code.counts.getD length 0
      if word < first + count then
        .ok (code.symbols[index + (word - first)]?, s)
      else
        Code.decodeFrom code (length + 1) (first + count) (index + count) word s
termination_by code.longest + 1 - length

/-- The symbol whose word comes next, if a word does. -/
def Code.decode (code : Code) (s : Bits) : Except Fault (Option Nat × Bits) :=
  code.decodeFrom 1 0 0 0 s

/-- The least length that each length symbol stands for, and how many bits
follow it. -/
def lengthBases : Array (Nat × Nat) := #[
  (3, 0), (4, 0), (5, 0), (6, 0), (7, 0), (8, 0), (9, 0), (10, 0), (11, 1), (13, 1), (15, 1),
  (17, 1), (19, 2), (23, 2), (27, 2), (31, 2), (35, 3), (43, 3), (51, 3), (59, 3), (67, 4),
  (83, 4), (99, 4), (115, 4), (131, 5), (163, 5), (195, 5), (227, 5), (258, 0)]

/-- The least distance that each distance symbol stands for, and how many
bits follow it. -/
def distanceBases : Array (Nat × Nat) := #[
  (1, 0), (2, 0), (3, 0), (4, 0), (5, 1), (7, 1), (9, 2), (13, 2), (17, 3), (25, 3), (33, 4),
  (49, 4), (65, 5), (97, 5), (129, 6), (193, 6), (257, 7), (385, 7), (513, 8), (769, 8),
  (1025, 9), (1537, 9), (2049, 10), (3073, 10), (4097, 11), (6145, 11), (8193, 12), (12289, 12),
  (16385, 13), (24577, 13)]

/-- `count` bytes more, each the one written `distance` before it. -/
def copyBack (distance : Nat) : Nat → Array UInt8 → Array UInt8
  | 0, out => out
  | count + 1, out => copyBack distance count (out.push (out.getD (out.size - distance) 0))

/-- The bytes that a reference of this length symbol stands for. -/
def reference (distances : Code) (symbol : Nat) (out : Array UInt8) (s : Bits) :
    Except Fault (Array UInt8 × Bits) := do
  match lengthBases[symbol]? with
  | none => throw (.corrupt .literalCode)
  | some (base, extra) =>
    let (more, s) ← s.take extra
    let length := base + more
    let (symbol, s) ← distances.decode s
    match symbol.bind (distanceBases[·]?) with
    | none => throw (.corrupt .distanceCode)
    | some (base, extra) =>
      let (more, s) ← s.take extra
      let distance := base + more
      if out.size < distance then throw (.corrupt .distanceTooFar)
      return (copyBack distance length out, s)

/-- The rest of a coded block. Every symbol takes a bit at least, so that
`budget` is not used up when it starts above the number of bits. -/
def codedBlock (literals distances : Code) :
    Nat → Array UInt8 → Bits → Except Fault (Array UInt8 × Bits)
  | 0, _, _ => .error .ended
  | budget + 1, out, s =>
    match literals.decode s with
    | .error f => .error f
    | .ok (none, _) => .error (.corrupt .literalCode)
    | .ok (some symbol, s) =>
      if symbol < 256 then
        codedBlock literals distances budget (out.push (UInt8.ofNat symbol)) s
      else if symbol == 256 then
        .ok (out, s)
      else
        match reference distances (symbol - 257) out s with
        | .error f => .error f
        | .ok (out, s) => codedBlock literals distances budget out s

/-- The lengths of the fixed literal code. -/
def fixedLiterals : List Nat :=
  List.replicate 144 8 ++ List.replicate 112 9 ++ List.replicate 24 7 ++ List.replicate 8 8

/-- The lengths of the fixed distance code. -/
def fixedDistances : List Nat := List.replicate 32 5

/-- The order in which the lengths of the code for code lengths are
sent. -/
def lengthOrder : List Nat := [16, 17, 18, 0, 8, 7, 9, 6, 10, 5, 11, 4, 12, 3, 13, 2, 14, 1, 15]

/-- `count` numbers of three bits each. -/
def threeBits : Nat → Bits → Except Fault (List Nat × Bits)
  | 0, s => .ok ([], s)
  | count + 1, s => do
    let (n, s) ← s.take 3
    let (ns, s) ← threeBits count s
    return (n :: ns, s)

/-- The lengths of the code for code lengths, by symbol. -/
def orderedLengths (sent : List Nat) : List Nat :=
  (List.range 19).map fun symbol => ((lengthOrder.zip sent).lookup symbol).getD 0

/-- The next symbol of the code for code lengths; one without words sends
zeros of one bit. -/
def lengthSymbol (code : Code) (s : Bits) : Except Fault (Nat × Bits) := do
  let (symbol, s) ← code.decode s
  return (symbol.getD 0, s)

/-- The lengths sent, latest first, until there are `total`. -/
def sentLengths (code : Code) (total : Nat) :
    Nat → List Nat → Bits → Except Fault (List Nat × Bits)
  | 0, _, _ => .error .ended
  | budget + 1, seen, s =>
    if total ≤ seen.length then
      .ok (seen, s)
    else
      match lengthSymbol code s with
      | .error f => .error f
      | .ok (symbol, s) =>
        if symbol < 16 then
          sentLengths code total budget (symbol :: seen) s
        else
          let (extra, least) :=
            if symbol == 16 then (2, 3) else if symbol == 17 then (3, 3) else (7, 11)
          match s.take extra with
          | .error f => .error f
          | .ok (more, s) =>
            let previous := if symbol == 16 then seen.head? else some 0
            match previous with
            | none => .error (.corrupt .lengthRepeat)
            | some previous =>
              if total < seen.length + least + more then
                .error (.corrupt .lengthRepeat)
              else
                sentLengths code total budget (List.replicate (least + more) previous ++ seen) s

/-- The two codes at the start of a block that transmits them. -/
def transmittedCodes (s : Bits) : Except Fault (Code × Code × Bits) := do
  -- The header: five bits, five bits and four bits.
  let (header, s) ← s.take 14
  let literals := header % 32 + 257
  let distances := header / 32 % 32 + 1
  let lengths := header / 1024 + 4
  if 286 < literals || 30 < distances then throw (.corrupt .symbolCounts)
  let (sent, s) ← threeBits lengths s
  let ordered := orderedLengths sent
  if !isComplete ordered then throw (.corrupt .codeLengthsSet)
  let total := literals + distances
  let (seen, s) ← sentLengths (Code.ofLengths ordered) total (total + 1) [] s
  -- Both codes are sent as one run of lengths, so a repeat may cross from one to the other.
  let all := seen.reverse
  if all.getD 256 0 == 0 then throw (.corrupt .noEndOfBlock)
  let forLiterals := all.take literals
  let forDistances := all.drop literals
  if !isUsable forLiterals then throw (.corrupt .literalsSet)
  if !isUsable forDistances then throw (.corrupt .distancesSet)
  return (Code.ofLengths forLiterals, Code.ofLengths forDistances, s)

/-- A stored block: its length, the length's complement, and the bytes. -/
def storedBlock (out : Array UInt8) (s : Bits) : Except Fault (Array UInt8 × Bits) := do
  let (lengths, s) ← s.alignToByte.take 32
  let length := lengths % 65536
  if length + lengths / 65536 != 65535 then throw (.corrupt .storedLengths)
  if s.bytes.length < length then throw .ended
  return (out ++ s.bytes.take length, { s with bytes := s.bytes.drop length })

/-- A block of the kind with number `kind`. -/
def block (kind : Nat) (out : Array UInt8) (s : Bits) : Except Fault (Array UInt8 × Bits) :=
  match kind with
  | 0 => storedBlock out s
  | 1 =>
    codedBlock (Code.ofLengths fixedLiterals) (Code.ofLengths fixedDistances) (s.size + 1) out s
  | 2 => do
    let (literals, distances, s) ← transmittedCodes s
    codedBlock literals distances (s.size + 1) out s
  | _ => .error (.corrupt .blockType)

/-- The rest of the blocks, up to the one marked as last. -/
def blocks : Nat → Array UInt8 → Bits → Except Fault (Array UInt8 × Bits)
  | 0, _, _ => .error .ended
  | budget + 1, out, s => do
    let (header, s) ← s.take 3
    let (out, s) ← block (header / 2) out s
    if header % 2 == 1 then return (out, s) else blocks budget out s

/-- The bytes that deflated data stand for, and those after the byte in
which the data end. -/
def inflate (data : List UInt8) : Except Fault (Array UInt8 × List UInt8) := do
  let (out, s) ← blocks (8 * data.length + 1) #[] ⟨0, 0, data⟩
  return (out, s.bytes)

end DeliveryAudit.Inflate
