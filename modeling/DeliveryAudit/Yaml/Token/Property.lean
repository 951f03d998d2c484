import DeliveryAudit.Yaml.Token.Scalar
/-!
# Anchors, tags and directives

An anchor and an alias are names. A tag is written in full between angle
brackets, or as a handle and what follows it; bytes in it may be escaped
with per cent signs. A directive is a version, a handle for tags, or any
other, which is passed over.
-/

namespace DeliveryAudit.Yaml.Lex

/-- Passing a name after its indicator. A character that satisfies `mayEnd`
has to follow it. -/
def name (activity : Activity) (since : Mark) (mayEnd : Char → Bool) : Lex String := do
  let cs ← skipWhile isNameChar
  let c ← next
  if cs.isEmpty || !mayEnd c then
    complain activity since (.expected "alphabetic or numeric character" c)
  else
    return String.ofList cs

/-- Passing the anchor or the alias that starts here. -/
def anchorOrAlias : Lex Token := do
  let since ← mark
  let isAlias := (← next) == '*'
  skip 1
  let name ← name (if isAlias then .aliasName else .anchor) since fun c =>
    endsWord c || "?:,]\x7d%@`".toList.contains c
  return ⟨if isAlias then .reference name else .anchor name, since, ← mark⟩

/-- Whether a character may stand in a tag. -/
def isTagChar (c : Char) : Bool :=
  c.isAlphanum || "-;/?:@&=+$,_.!~*'()[]%".toList.contains c

/-- Passing escaped bytes, onto those before, latest first. -/
def escapedBytes (activity : Activity) (since : Mark) : Nat → List UInt8 → Lex (List UInt8)
  | 0, seen => return seen.reverse
  | budget + 1, seen => do
    if (← next) == '%' then
      skip 1
      let digits ← aheadUpTo 2 isHexDigit
      if digits.length < 2 then
        complain activity since
          (.expected "URI escape sequence of 2 hexadecimal numbers" (← peek digits.length))
      skip 2
      escapedBytes activity since budget (UInt8.ofNat (hexNumber digits) :: seen)
    else
      return seen.reverse

/-- Passing the characters of a tag, with its escapes replaced. -/
def tagChars (activity : Activity) (since : Mark) : Nat → List Char → Lex (List Char)
  | 0, seen => return seen
  | budget + 1, seen => do
    let piece ← skipWhile fun d => isTagChar d && d != '%'
    let seen := seen ++ piece
    if (← next) == '%' then
      let m ← mark
      let bytes ← escapedBytes activity since (← rounds) []
      match Utf8.decode bytes with
      | .ok cs => tagChars activity since budget (seen ++ cs)
      | .error f => complainAt m activity since (.undecodableTag f)
    else
      return seen

/-- Passing the rest of a tag, which must not be missing. -/
def tagSuffix (scanning parsing : Activity) (since : Mark) : Lex String := do
  let start ← mark
  let cs ← tagChars scanning since (← rounds) []
  if (← mark).index == start.index then
    complain parsing since (.expected "URI" (← next))
  else
    return String.ofList cs

/-- Passing the handle of a tag. -/
def tagHandle (activity : Activity) (since : Mark) : Lex String := do
  let c ← next
  if c != '!' then
    complain activity since (.expected "'!'" c)
  if (← peek 1) == ' ' then
    skip 1
    return "!"
  let name ← ahead 1 isNameChar
  let d ← peek (1 + name.length)
  if d == '!' then
    skip (2 + name.length)
    return String.ofList (('!' :: name) ++ ['!'])
  else
    skip (1 + name.length)
    complain activity since (.expected "'!'" d)

/-- Passing the tag that starts here: its handle, unless it is written in
full, and what follows. -/
def tagParts (since : Mark) : Lex (Option String × String) := do
  let d ← peek 1
  if d == '<' then
    skip 2
    let suffix ← tagSuffix .tag .tagName since
    let e ← next
    if e != '>' then
      complain .tagName since (.expected "'>'" e)
    skip 1
    return (none, suffix)
  else if endsWord d then
    skip 1
    return (none, "!")
  else
    let word ← ahead 1 fun e => e != '!' && !endsToken e
    let handle ←
      if (← peek (1 + word.length)) == '!' then
        tagHandle .tag since
      else do
        skip 1
        pure "!"
    return (some handle, ← tagSuffix .tag .tagName since)

/-- Passing the tag that starts here. -/
def tag : Lex Token := do
  let since ← mark
  let (handle, suffix) ← tagParts since
  let c ← next
  if endsToken c then
    return ⟨.tag handle suffix, since, ← mark⟩
  else
    complain .tag since (.expected "' '" c)

/-- Passing a number of a version. -/
def versionNumber (since : Mark) : Lex Nat := do
  let digits ← ahead 0 Char.isDigit
  if digits.isEmpty then
    complain .directive since (.expected "a digit" (← next))
  if Number.digitLimit < digits.length then
    throw (.longVersion digits.length)
  skip digits.length
  return Number.decimalValue digits

/-- Passing a version. -/
def version (since : Mark) : Lex Directive := do
  let major ← versionNumber since
  let c ← next
  if c != '.' then
    complain .directive since (.expected "a digit or '.'" c)
  skip 1
  let minor ← versionNumber since
  let c ← next
  if endsToken c then
    return .version major minor
  else
    complain .directive since (.expected "a digit or ' '" c)

/-- Passing a handle and what it stands for. -/
def handleDefinition (since : Mark) : Lex Directive := do
  let handle ← tagHandle .directive since
  let c ← next
  if c != ' ' then
    complain .directive since (.expected "' '" c)
  skipSpaces
  let stem ← tagSuffix .directive .directiveStem since
  let c ← next
  if endsToken c then
    return .tag handle stem
  else
    complain .directive since (.expected "' '" c)

/-- Passing the directive that starts here, with its line. -/
def directive : Lex Token := do
  let since ← mark
  skip 1
  let name ← name .directive since endsToken
  let d ← match name with
    | "YAML" => do
      skipSpaces
      version since
    | "TAG" => do
      skipSpaces
      handleDefinition since
    | _ => do
      let _ ← skipWhile fun e => !endsLine e
      pure .other
  let last ← mark
  ignoredLine .directive since
  return ⟨.directive d, since, last⟩

end DeliveryAudit.Yaml.Lex
