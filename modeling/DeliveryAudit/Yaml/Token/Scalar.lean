import DeliveryAudit.Number.Numeral
import DeliveryAudit.Yaml.Cursor
import DeliveryAudit.Yaml.Token
/-!
# The text of a scalar

A scalar is plain, quoted, or a block. Line breaks inside a plain or a
quoted scalar are folded: a single break counts as a space, and of
several the first does not count. In a block they are kept or folded as
its header says.

The actions with a `budget` take a character or more in every round, so
that `Lex.rounds` is budget enough.
-/

namespace DeliveryAudit.Yaml

/-- The text of a line break, or of several, between two lines: a single
break that is folded counts as a space. -/
def foldedBreaks (first : List Char) (others : List Char) : List Char :=
  if first != ['\n'] then first ++ others
  else if others.isEmpty then [' ']
  else others

namespace Lex

/-! ## Plain scalars -/

/-- Whether a plain scalar goes on at a character that another one
follows. -/
def plainGoesOn (inFlow : Bool) (c d : Char) : Bool :=
  let ends := c == ':' && (endsWord d || (inFlow && ",[]\x7b\x7d".toList.contains d))
  !(endsWord c || ends || (inFlow && ",?[]\x7b\x7d".toList.contains c))

/-- The piece of a plain scalar at the front of a text. -/
def plainPrefix (inFlow : Bool) : List Char → List Char
  | [] => []
  | c :: rest =>
    if plainGoesOn inFlow c (rest.headD '\x00') then c :: plainPrefix inFlow rest else []

/-- The piece of a plain scalar that starts here. It may end before a
colon, depending on the character after that. -/
def plainPiece (inFlow : Bool) : Lex (List Char) := do
  let piece := plainPrefix inFlow (← get).rest
  if (← peek piece.length) == ':' then
    need (piece.length + 2)
  return piece

/-- Passing the line breaks that follow, unless a line that separates
documents is met. -/
def plainBreaks : Nat → List Char → Lex (Option (List Char))
  | 0, seen => return some seen
  | budget + 1, seen => do
    skipSpaces
    if isBreak (← next) then
      let seen := seen ++ (← lineBreak)
      if ← atSeparator then return none
      plainBreaks budget seen
    else
      return some seen

/-- Passing what stands between two pieces of a plain scalar: its text,
and whether a line break was met. No text means that the scalar has
ended. -/
def plainSpaces : Lex (List Char × Bool) := do
  let spaces ← skipWhile (· == ' ')
  if isBreak (← next) then
    let first ← lineBreak
    if ← atSeparator then return ([], true)
    match ← plainBreaks (← rounds) [] with
    | none => return ([], true)
    | some others => return (foldedBreaks first others, true)
  else
    return (spaces, false)

/-- Passing the rest of a plain scalar after the pieces `seen`, latest
first, and the blanks that follow them: the text, its end, and whether the
last thing passed was a line break. `indent` is the column that the lines
of the scalar have to reach outside flow collections. -/
def plainFrom (inFlow : Bool) (indent : Int) :
    Nat → List (List Char) → List Char → Mark → Bool → Lex (List Char × Mark × Bool)
  | 0, seen, _, last, broken => return (seen.reverse.flatten, last, broken)
  | budget + 1, seen, blanks, last, broken => do
    if (← next) == '#' then
      return (seen.reverse.flatten, last, broken)
    let piece ← plainPiece inFlow
    if piece.isEmpty then
      return (seen.reverse.flatten, last, broken)
    skip piece.length
    let last ← mark
    let (spaces, broken) ← plainSpaces
    let seen := piece :: blanks :: seen
    if spaces.isEmpty then
      return (seen.reverse.flatten, last, broken)
    if (← next) == '#' || (!inFlow && ((← column) : Int) < indent) then
      return (seen.reverse.flatten, last, broken)
    plainFrom inFlow indent budget seen spaces last broken

/-- Passing the plain scalar that starts here and the blanks that follow,
and whether a line break is among these. -/
def plainScalar (inFlow : Bool) (indent : Int) : Lex (Token × Bool) := do
  let since ← mark
  let (text, last, broken) ← plainFrom inFlow indent (← rounds) [] [] since false
  return (⟨.scalar (text.map .scalar) true, since, last⟩, broken)

/-! ## Quoted scalars -/

/-- The character a one-letter escape stands for. -/
def shortEscape? : Char → Option Char
  | '0' => some '\x00'
  | 'a' => some '\x07'
  | 'b' => some '\x08'
  | 't' => some '\t'
  | '\t' => some '\t'
  | 'n' => some '\n'
  | 'v' => some '\x0b'
  | 'f' => some '\x0c'
  | 'r' => some '\r'
  | 'e' => some '\x1b'
  | ' ' => some ' '
  | '"' => some '"'
  | '\\' => some '\\'
  | '/' => some '/'
  | 'N' => some '\x85'
  | '_' => some '\xa0'
  | 'L' => some '\u2028'
  | 'P' => some '\u2029'
  | _ => none

/-- How many digits an escape by number has. -/
def escapeDigits? : Char → Option Nat
  | 'x' => some 2
  | 'u' => some 4
  | 'U' => some 8
  | _ => none

/-- Whether a character is a hexadecimal digit. -/
def isHexDigit (c : Char) : Bool := Number.digitOf c < 16

/-- The number that hexadecimal digits denote. -/
def hexNumber (digits : List Char) : Nat :=
  digits.foldl (fun n d => n * 16 + Number.digitOf d) 0

/-- Whether a character is a space or a tab. -/
def isBlank (c : Char) : Bool := c == ' ' || c == '\t'

/-- Passing the line breaks that follow inside a quoted scalar. -/
def quotedBreaks (since : Mark) : Nat → List Char → Lex (List Char)
  | 0, seen => return seen
  | budget + 1, seen => do
    if ← atSeparator then
      complain .quotedScalar since .documentSeparator
    let _ ← skipWhile isBlank
    if isBreak (← next) then
      quotedBreaks since budget (seen ++ (← lineBreak))
    else
      return seen

/-- Passing an escape after its backslash. -/
def quotedEscape (since : Mark) : Lex Text := do
  let d ← next
  match shortEscape? d, escapeDigits? d with
  | some e, _ => do
    skip 1
    return [.scalar e]
  | none, some width => do
    skip 1
    let digits ← aheadUpTo width isHexDigit
    if digits.length < width then
      complain .doubleQuotedScalar since
        (.expected ("escape sequence of " ++ toString width ++ " hexadecimal numbers")
          (← peek digits.length))
    match CodePoint.ofNat? (hexNumber digits) with
    | some p => do
      skip width
      return [p]
    | none => throw (.beyondCodePoints (hexNumber digits))
  | none, none =>
    if isBreak d then do
      let _ ← lineBreak
      let breaks ← quotedBreaks since (← rounds) []
      return breaks.map .scalar
    else
      complain .doubleQuotedScalar since (.unknownEscape d)

/-- Passing the rest of a quoted scalar, onto the code points before,
latest first. -/
def quotedFrom (double : Bool) (since : Mark) : Nat → Text → Lex Text
  | 0, _ => complain .quotedScalar since .endOfStream
  | budget + 1, seen => do
    let d ← next
    if d == '\'' && !double then
      if (← peek 1) == '\'' then
        skip 2
        quotedFrom double since budget (.scalar '\'' :: seen)
      else
        skip 1
        return seen.reverse
    else if d == '"' && double then
      skip 1
      return seen.reverse
    else if d == '\\' && double then
      skip 1
      let t ← quotedEscape since
      quotedFrom double since budget (t.reverse ++ seen)
    else if endsWord d then
      let blanks ← skipWhile isBlank
      let e ← next
      if e == '\x00' then
        complain .quotedScalar since .endOfStream
      else if isBreak e then
        let first ← lineBreak
        let others ← quotedBreaks since (← rounds) []
        quotedFrom double since budget
          ((foldedBreaks first others).reverse.map .scalar ++ seen)
      else
        quotedFrom double since budget (blanks.reverse.map .scalar ++ seen)
    else
      skip 1
      quotedFrom double since budget (.scalar d :: seen)

/-- Passing the quoted scalar that starts here with its quote. -/
def quotedScalar : Lex Token := do
  let since ← mark
  let double := (← next) == '"'
  skip 1
  let text ← quotedFrom double since (← rounds) []
  return ⟨.scalar text false, since, ← mark⟩

/-! ## Block scalars -/

/-- What becomes of the line breaks at the end of a block: all are
dropped, one is kept, or all are. -/
inductive Chomping where
  | strip
  | clip
  | keep
deriving DecidableEq

/-- What becomes of the last line breaks, by the indicator of the
header. -/
def chomping? : Char → Option Chomping
  | '+' => some .keep
  | '-' => some .strip
  | _ => none

/-- Passing the indentation in a header. -/
def indentIndicator (since : Mark) : Lex (Option Nat) := do
  let c ← next
  if c == '0' then
    complain .blockScalar since .zeroIndent
  else if c.isDigit then
    skip 1
    return some (Number.digitOf c)
  else
    return none

/-- Passing the header of a block after its first character: an indicator
of either kind, in either order. -/
def blockHeader (since : Mark) : Lex (Chomping × Option Nat) := do
  let header ← match chomping? (← next) with
    | some k => do
      skip 1
      pure (k, ← indentIndicator since)
    | none => do
      let increment ← indentIndicator since
      match increment, chomping? (← next) with
      | some _, some k => do
        skip 1
        pure (k, increment)
      | _, _ => pure (.clip, increment)
  let c ← next
  if endsToken c then
    return header
  else
    complain .blockScalar since (.expected "chomping or indentation indicators" c)

/-- Passing the rest of a line that may hold a comment only. -/
def ignoredLine (activity : Activity) (since : Mark) : Lex Unit := do
  skipSpaces
  skipComment
  let c ← next
  if endsLine c then
    let _ ← lineBreak
  else
    complain activity since (.expected "a comment or a line break" c)

/-- Passing the empty lines at the start of a block: their breaks, and the
widest column reached in them and in the line that follows. -/
def leadingBreaks : Nat → List Char → Nat → Lex (List Char × Nat)
  | 0, seen, widest => return (seen, widest)
  | budget + 1, seen, widest => do
    skipSpaces
    let widest := max widest (← column)
    if isBreak (← next) then
      leadingBreaks budget (seen ++ (← lineBreak)) widest
    else
      return (seen, widest)

/-- Passing the spaces that indent a line of a block. -/
def skipIndent (indent : Nat) : Lex Unit := do
  let spaces ← aheadUpTo (indent - (← column)) (· == ' ')
  skip spaces.length

/-- Passing the empty lines inside a block. -/
def innerBreaks (indent : Nat) : Nat → List Char → Lex (List Char)
  | 0, seen => return seen
  | budget + 1, seen => do
    skipIndent indent
    if isBreak (← next) then
      innerBreaks indent budget (seen ++ (← lineBreak))
    else
      return seen

/-- Whether more of a block stands here. -/
def blockGoesOn (indent : Nat) : Lex Bool := do
  if (← column) == indent then return (← next) != '\x00' else return false

/-- Passing the lines of a block from here on, after the pieces `seen`,
latest first: the text, the break after the last line, and those that
follow it. -/
def blockLines (folded : Bool) (indent : Nat) :
    Nat → List (List Char) → Lex (List Char × List Char × List Char)
  | 0, seen => return (seen.reverse.flatten, [], [])
  | budget + 1, seen => do
    let startsBlank := isBlank (← next)
    let line ← skipWhile fun d => !endsLine d
    let seen := line :: seen
    let first ← lineBreak
    let others ← innerBreaks indent (← rounds) []
    if ← blockGoesOn indent then
      let between :=
        if folded && first == ['\n'] && !startsBlank && !isBlank (← next) then
          if others.isEmpty then [' '] else others
        else
          first ++ others
      blockLines folded indent budget (between :: seen)
    else
      return (seen.reverse.flatten, first, others)

/-- Passing the block scalar that starts here, inside a collection
indented by `indent`. -/
def blockScalar (indent : Int) : Lex Token := do
  let since ← mark
  let folded := (← next) == '>'
  skip 1
  let (chomping, increment) ← blockHeader since
  ignoredLine .blockScalar since
  -- Even at the top of a document a block is indented by a column at least.
  let least := (max (indent + 1) 1).toNat
  let (leading, width) ← match increment with
    | some n => do
      let width := least + n - 1
      pure (← innerBreaks width (← rounds) [], width)
    | none => do
      let (breaks, widest) ← leadingBreaks (← rounds) [] 0
      pure (breaks, max least widest)
  let (text, first, others) ←
    if ← blockGoesOn width then blockLines folded width (← rounds) [leading]
    else pure ([], [], leading)
  let tail := match chomping with
    | .strip => []
    | .clip => first
    | .keep => first ++ others
  return ⟨.scalar ((text ++ tail).map .scalar) false, since, ← mark⟩

end Lex

end DeliveryAudit.Yaml
