import DeliveryAudit.Yaml.Token.Property
/-!
# The tokens of a text

A text is cut into tokens from left to right. Indentation opens and
closes block collections. A scalar, a flow collection or an alias may
turn out to be a key when a colon follows it: until that is known it is a
candidate, and the tokens from it on are held back. A candidate is given
up at the end of its line or after 1024 characters.
-/

namespace DeliveryAudit.Yaml

/-- Something that a colon would make a key. `number` counts the tokens
before it. A candidate is required to be a key where a block mapping can
only go on with one. -/
structure Candidate where
  number : Nat
  required : Bool
  mark : Mark

/-- How far the cutting of a text has come. -/
structure Scan where
  cursor : Cursor
  /-- How many flow collections are open. -/
  depth : Int
  /-- The column of the innermost block collection, `-1` without one. -/
  indent : Int
  /-- The columns of those around it. -/
  outer : List Int
  /-- Whether a key may start here. -/
  keyAllowed : Bool
  /-- The candidates, by the flow collections that are open around
  them. -/
  candidates : List (Int × Candidate)
  /-- How many tokens have been handed on. -/
  taken : Nat
  /-- The tokens that are held back. -/
  held : List Token
  finished : Bool

namespace Scan

/-- The cut at the start of a source. -/
def start (source : Source) : Scan :=
  let c := Cursor.start source
  ⟨c, 0, -1, [], true, [], 0, [⟨.streamStart, c.mark, c.mark⟩], false⟩

/-- The cut after something has been read. -/
def lex {α : Type} (s : Scan) (action : Lex α) : Except Fault (α × Scan) := do
  let (a, c) ← action s.cursor
  return (a, { s with cursor := c })

/-- Whether a flow collection is open. -/
def inFlow (s : Scan) : Bool := s.depth != 0

/-- The column of the cursor. -/
def column (s : Scan) : Int := s.cursor.mark.column

/-- The cut with one more token held back. -/
def hold (s : Scan) (kind : Token.Kind) (first last : Mark) : Scan :=
  { s with held := s.held ++ [⟨kind, first, last⟩] }

/-- The cut with a token of no length held back. -/
def holdEmpty (s : Scan) (kind : Token.Kind) : Scan := s.hold kind s.cursor.mark s.cursor.mark

/-- The cut with the token held back that an action reads. -/
def holdRead (s : Scan) (action : Lex Token) : Except Fault Scan := do
  let (t, s) ← s.lex action
  return { s with held := s.held ++ [t] }

/-- The cut after a token of `n` characters. -/
def holdNext (s : Scan) (kind : Token.Kind) (n : Nat) : Except Fault Scan :=
  s.holdRead do
    let first ← Lex.mark
    Lex.skip n
    return ⟨kind, first, ← Lex.mark⟩

/-- Whether a candidate can no longer be a key. -/
def isStale (s : Scan) (k : Candidate) : Bool :=
  k.mark.line != s.cursor.mark.line || 1024 < s.cursor.mark.index - k.mark.index

/-- The complaint about a candidate that has to be a key and is none. -/
def missingColon (s : Scan) (k : Candidate) : Fault :=
  .complaint ⟨some .simpleKey, some k.mark, .missingColon, s.cursor.mark⟩

/-- The cut without stale candidates. -/
def dropStale (s : Scan) : Except Fault Scan :=
  match s.candidates.find? fun k => s.isStale k.2 && k.2.required with
  | some k => .error (s.missingColon k.2)
  | none => .ok { s with candidates := s.candidates.filter fun k => !s.isStale k.2 }

/-- The candidate among the open flow collections. -/
def candidate? (s : Scan) : Option Candidate :=
  (s.candidates.find? fun k => k.1 == s.depth).map Prod.snd

/-- The cut without that candidate. -/
def forgetCandidate (s : Scan) : Scan :=
  { s with candidates := s.candidates.filter fun k => k.1 != s.depth }

/-- The cut without that candidate, which must not be required. -/
def dropCandidate (s : Scan) : Except Fault Scan :=
  match s.candidate? with
  | some k => if k.required then .error (s.missingColon k) else .ok s.forgetCandidate
  | none => .ok s

/-- The cut with what follows as a candidate, where a key may start. -/
def addCandidate (s : Scan) : Except Fault Scan := do
  if s.keyAllowed then
    let required := !s.inFlow && s.indent == s.column
    let s ← s.dropCandidate
    let k : Candidate := ⟨s.taken + s.held.length, required, s.cursor.mark⟩
    return { s with candidates := s.candidates ++ [(s.depth, k)] }
  else
    return s

/-- The number of the first token that is a candidate. -/
def firstCandidate? (s : Scan) : Option Nat := (s.candidates.map fun k => k.2.number).min?

/-- The block collections deeper than a column end, one after another. -/
def closeBlocks (column : Int) : Nat → Scan → Scan
  | 0, s => s
  | budget + 1, s =>
    if column < s.indent then
      let s := s.holdEmpty .blockEnd
      closeBlocks column budget { s with indent := s.outer.headD (-1), outer := s.outer.tail }
    else
      s

/-- The cut after the block collections deeper than a column have
ended; inside flow collections indentation has no meaning. -/
def unwind (s : Scan) (column : Int) : Scan :=
  if s.inFlow then s else closeBlocks column (s.outer.length + 1) s

/-- Whether a block collection starts at a column, and the cut inside
it. -/
def openBlock (s : Scan) (column : Int) : Bool × Scan :=
  if s.indent < column then
    (true, { s with indent := column, outer := s.indent :: s.outer })
  else
    (false, s)

/-- Passing blanks, comments and line breaks: whether a line break was
among them. -/
def skipIgnored : Nat → Bool → Lex Bool
  | 0, broken => return broken
  | budget + 1, broken => do
    Lex.skipSpaces
    Lex.skipComment
    if isBreak (← Lex.next) then
      let _ ← Lex.lineBreak
      skipIgnored budget true
    else
      return broken

/-- Passing what stands before the next token, with a byte order mark at
the start of the text. -/
def skipToToken : Lex Bool := do
  if (← Lex.mark).index == 0 then
    if (← Lex.next) == '\ufeff' then
      Lex.skip 1
  skipIgnored (← Lex.rounds) false

/-- The cut at the start of the next token. -/
def toNextToken (s : Scan) : Except Fault Scan := do
  let (broken, s) ← s.lex skipToToken
  return { s with keyAllowed := s.keyAllowed || (broken && !s.inFlow) }

/-! ## Tokens by their first characters -/

/-- The end of the text. -/
def streamEnd (s : Scan) : Except Fault Scan := do
  let s ← (s.unwind (-1)).dropCandidate
  let s := s.holdEmpty .streamEnd
  return { s with keyAllowed := false, candidates := [], finished := true }

/-- A directive. -/
def directiveLine (s : Scan) : Except Fault Scan := do
  let s ← (s.unwind (-1)).dropCandidate
  let s ← s.holdRead Lex.directive
  return { s with keyAllowed := false }

/-- A line that separates documents. -/
def separator (s : Scan) (kind : Token.Kind) : Except Fault Scan := do
  let s ← (s.unwind (-1)).dropCandidate
  let s ← s.holdNext kind 3
  return { s with keyAllowed := false }

/-- The start of a flow collection. -/
def openFlow (s : Scan) (kind : Token.Kind) : Except Fault Scan := do
  let s ← s.addCandidate
  let s ← s.holdNext kind 1
  return { s with depth := s.depth + 1, keyAllowed := true }

/-- The end of a flow collection. -/
def closeFlow (s : Scan) (kind : Token.Kind) : Except Fault Scan := do
  let s ← s.dropCandidate
  let s ← s.holdNext kind 1
  return { s with depth := s.depth - 1, keyAllowed := false }

/-- A comma between the entries of a flow collection. -/
def flowEntry (s : Scan) : Except Fault Scan := do
  let s ← s.dropCandidate
  let s ← s.holdNext .flowEntry 1
  return { s with keyAllowed := true }

/-- The start of a block collection at the cursor, when the cursor stands
deeper than the one around it. Outside flow collections an entry may only
start where a key may. -/
def startBlock (s : Scan) (kind : Token.Kind) (what : String) : Except Fault Scan :=
  if s.inFlow then
    .ok s
  else if !s.keyAllowed then
    .error (.complaint ⟨none, none, .notAllowed what, s.cursor.mark⟩)
  else
    match s.openBlock s.column with
    | (true, s) => .ok (s.holdEmpty kind)
    | (false, s) => .ok s

/-- A dash before an entry of a block sequence. -/
def blockEntry (s : Scan) : Except Fault Scan := do
  let s ← s.startBlock .blockSequenceStart "sequence entries"
  let s ← s.dropCandidate
  let s ← s.holdNext .blockEntry 1
  return { s with keyAllowed := true }

/-- A question mark before a key. -/
def explicitKey (s : Scan) : Except Fault Scan := do
  let s ← s.startBlock .blockMappingStart "mapping keys"
  let s ← s.dropCandidate
  let s ← s.holdNext .key 1
  return { s with keyAllowed := !s.inFlow }

/-- The cut with a token put among those held back, before the one of
that number. -/
def insertToken (s : Scan) (number : Nat) (kind : Token.Kind) (m : Mark) : Scan :=
  let place := number - s.taken
  { s with held := s.held.take place ++ ⟨kind, m, m⟩ :: s.held.drop place }

/-- A colon before a value. It makes the candidate a key. -/
def colon (s : Scan) : Except Fault Scan := do
  let s ← match s.candidate? with
    | some k =>
      -- The tokens of the key are still held back, so its mark can go in front of them.
      let s := s.forgetCandidate.insertToken k.number .key k.mark
      let s := { s with keyAllowed := false }
      if s.inFlow then
        pure s
      else
        -- The mapping starts where its first key does.
        match s.openBlock k.mark.column with
        | (true, s) => pure (s.insertToken k.number .blockMappingStart k.mark)
        | (false, s) => pure s
    | none => do
      let s ← s.startBlock .blockMappingStart "mapping values"
      let s ← s.dropCandidate
      pure { s with keyAllowed := !s.inFlow }
  s.holdNext .value 1

/-- A token that may be a key, or the start of one, and after which no key
can start. -/
def keyLike (s : Scan) (action : Lex Token) : Except Fault Scan := do
  let s ← s.addCandidate
  let s ← s.holdRead action
  return { s with keyAllowed := false }

/-- A block scalar. -/
def block (s : Scan) : Except Fault Scan := do
  let s ← s.dropCandidate
  let s ← s.holdRead (Lex.blockScalar s.indent)
  return { s with keyAllowed := true }

/-- A plain scalar. A key may start after it when it ends with its
line. -/
def plain (s : Scan) : Except Fault Scan := do
  let s ← s.addCandidate
  let ((t, broken), s) ← s.lex (Lex.plainScalar s.inFlow (s.indent + 1))
  return { s with keyAllowed := broken, held := s.held ++ [t] }

/-- What the next characters are the start of. -/
inductive Opening where
  | streamEnd
  | directive
  | separator (kind : Token.Kind)
  | flowStart (kind : Token.Kind)
  | flowEnd (kind : Token.Kind)
  | flowEntry
  | blockEntry
  | key
  | value
  | anchorOrAlias
  | tag
  | block
  | quoted
  | plain
  /-- No token starts with this character. -/
  | nothing (found : Char)

/-- What a character is the start of whatever follows it. -/
def Opening.ofChar? (inFlow : Bool) (c : Char) : Option Opening :=
  match c with
  | '\x00' => some .streamEnd
  | '[' => some (.flowStart .flowSequenceStart)
  | '{' => some (.flowStart .flowMappingStart)
  | ']' => some (.flowEnd .flowSequenceEnd)
  | '}' => some (.flowEnd .flowMappingEnd)
  | ',' => some .flowEntry
  | '?' => if inFlow then some .key else none
  | ':' => if inFlow then some .value else none
  | '*' | '&' => some .anchorOrAlias
  | '!' => some .tag
  | '|' | '>' => if inFlow then none else some .block
  | '\'' | '"' => some .quoted
  | _ => if endsWord c || "-#%@`".toList.contains c then none else some .plain

/-- What a character is the start of when a blank or the end of the line
follows it. -/
def Opening.alone (c : Char) : Opening :=
  match c with
  | '-' => .blockEntry
  | '?' => .key
  | ':' => .value
  | _ => .nothing c

/-- What a character is the start of when something else follows it. -/
def Opening.joined (c : Char) : Opening :=
  match c with
  | '-' | '?' | ':' => .plain
  | _ => .nothing c

/-- What starts here. -/
def opening (inFlow : Bool) : Lex Opening := do
  let c ← Lex.next
  if (← Lex.column) == 0 then
    if c == '%' then
      return .directive
    if c == '-' || c == '.' then
      if ← Lex.atSeparator then
        return .separator (if c == '-' then .documentStart else .documentEnd)
  match Opening.ofChar? inFlow c with
  | some o => return o
  | none => return if endsWord (← Lex.peek 1) then .alone c else .joined c

/-- The next token. -/
def token (s : Scan) : Except Fault Scan := do
  let (o, s) ← s.lex (opening s.inFlow)
  match o with
  | .streamEnd => s.streamEnd
  | .directive => s.directiveLine
  | .separator kind => s.separator kind
  | .flowStart kind => s.openFlow kind
  | .flowEnd kind => s.closeFlow kind
  | .flowEntry => s.flowEntry
  | .blockEntry => s.blockEntry
  | .key => s.explicitKey
  | .value => s.colon
  | .anchorOrAlias => s.keyLike Lex.anchorOrAlias
  | .tag => s.keyLike Lex.tag
  | .block => s.block
  | .quoted => s.keyLike Lex.quotedScalar
  | .plain => s.plain
  | .nothing c => .error (.complaint ⟨some .nextToken, none, .noToken c, s.cursor.mark⟩)

/-- The cut after one more token, or several, have been held back. -/
def fetch (s : Scan) : Except Fault Scan := do
  let s ← (← s.toNextToken).dropStale
  (s.unwind s.column).token

/-- Whether more of the text has to be cut before a token can be handed
on. -/
def needsMore (s : Scan) : Bool :=
  !s.finished && (s.held.isEmpty || s.firstCandidate? == some s.taken)

end Scan

/-- The tokens of a text up to a fault, if there is one. -/
structure TokenStream where
  tokens : List Token
  fault : Option Fault

namespace TokenStream

/-- The tokens from a cut on, after those handed on before, latest first.
Every round hands on a token or reads a character, and a character gives
no more than three tokens. -/
def collect : Nat → Scan → List Token → TokenStream
  | 0, _, seen => ⟨seen.reverse, none⟩
  | budget + 1, s, seen =>
    match if s.finished then .ok s else s.dropStale with
    | .error f => ⟨seen.reverse, some f⟩
    | .ok s =>
      if s.needsMore then
        match s.fetch with
        | .error f => ⟨seen.reverse, some f⟩
        | .ok after => collect budget after seen
      else
        match s.held with
        | [] => ⟨seen.reverse, none⟩
        | t :: held => collect budget { s with held := held, taken := s.taken + 1 } (t :: seen)

/-- The tokens of a source. -/
def ofSource (source : Source) : TokenStream :=
  collect (8 * source.text.length + 16) (Scan.start source) []

end TokenStream

end DeliveryAudit.Yaml
