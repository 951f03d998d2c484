import DeliveryAudit.Calendar
import DeliveryAudit.Number.Decimal
import DeliveryAudit.Text.Quoted
import DeliveryAudit.Text.Utf8
import DeliveryAudit.Yaml.Mark
/-!
# Why a YAML text is not read

A complaint says what is wrong at a place, and what was being read there
since which place. Besides complaints there are faults of the bytes
themselves, and of scalars whose tag promises what their text does not
keep; the latter have no place.
-/

namespace DeliveryAudit.Yaml

/-- What was being read. -/
inductive Activity where
  | nextToken
  | simpleKey
  | directive
  | directiveStem
  | aliasName
  | anchor
  | tag
  | tagName
  | blockScalar
  | quotedScalar
  | doubleQuotedScalar
  | node
  | blockNode
  | flowNode
  | blockCollection
  | blockMapping
  | flowSequence
  | flowMapping
  | singleDocument
  | firstOccurrence (anchor : String)
  | mapping
  | orderedMap
  | pairs
deriving DecidableEq

/-- The wording of what was being read. -/
def Activity.text : Activity → String
  | nextToken => "while scanning for the next token"
  | simpleKey => "while scanning a simple key"
  | directive => "while scanning a directive"
  | directiveStem => "while parsing a directive"
  | aliasName => "while scanning an alias"
  | anchor => "while scanning an anchor"
  | tag => "while scanning a tag"
  | tagName => "while parsing a tag"
  | blockScalar => "while scanning a block scalar"
  | quotedScalar => "while scanning a quoted scalar"
  | doubleQuotedScalar => "while scanning a double-quoted scalar"
  | node => "while parsing a node"
  | blockNode => "while parsing a block node"
  | flowNode => "while parsing a flow node"
  | blockCollection => "while parsing a block collection"
  | blockMapping => "while parsing a block mapping"
  | flowSequence => "while parsing a flow sequence"
  | flowMapping => "while parsing a flow mapping"
  | singleDocument => "expected a single document in the stream"
  | firstOccurrence name => "found duplicate anchor " ++ quoted name ++ "; first occurrence"
  | mapping => "while constructing a mapping"
  | orderedMap => "while constructing an ordered map"
  | pairs => "while constructing pairs"

/-- Why a text is no base64. -/
inductive Base64Fault where
  | padding
  | strayDigit (digits : Nat)
deriving DecidableEq

/-- The wording of a base64 fault. -/
def Base64Fault.text : Base64Fault → String
  | padding => "Incorrect padding"
  | strayDigit digits => "Invalid base64-encoded string: number of data characters (" ++
      toString digits ++ ") cannot be 1 more than a multiple of 4"

/-- What is wrong. -/
inductive Problem where
  /-- A character where something else was expected. -/
  | expected (what : String) (found : Char)
  /-- A token where something else was expected. -/
  | expectedToken (what found : String)
  /-- A token where a collection goes on or ends. -/
  | expectedEntry (what found : String)
  /-- A node of one kind where another was expected. -/
  | expectedNode (what found : String)
  | noToken (found : Char)
  | missingColon
  | notAllowed (what : String)
  | undecodableTag (f : Utf8.Fault)
  | zeroIndent
  | unknownEscape (found : Char)
  | endOfStream
  | documentSeparator
  | duplicateVersion
  | incompatibleVersion
  | duplicateHandle (handle : String)
  | undefinedHandle (handle : String)
  | undefinedAlias (name : String)
  | secondOccurrence
  | anotherDocument
  | unhashableKey
  | unknownTag (tag : String)
  | itemCount (n : Nat)
  /-- Characters of base64 data, `count` from place `at` on, are not
  ASCII; `lead` is the first. -/
  | notAscii (lead : CodePoint) (first count : Nat)
  | base64 (f : Base64Fault)
deriving DecidableEq

/-- An escape for a code point that is not ASCII. -/
def escaped (p : CodePoint) : String :=
  let n := p.value
  String.ofList
    (if n < 0x100 then '\\' :: 'x' :: Text.hex 2 n
    else if n < 0x10000 then '\\' :: 'u' :: Text.hex 4 n
    else '\\' :: 'U' :: Text.hex 8 n)

/-- The wording of what is wrong. -/
def Problem.text : Problem → String
  | expected what found => "expected " ++ what ++ ", but found " ++ quoted found.toString
  | expectedToken what found => "expected " ++ what ++ ", but found " ++ quoted found
  | expectedEntry what found => "expected " ++ what ++ ", but got " ++ quoted found
  | expectedNode what found => "expected " ++ what ++ ", but found " ++ found
  | noToken found => "found character " ++ quoted found.toString ++ " that cannot start any token"
  | missingColon => "could not find expected ':'"
  | notAllowed what => what ++ " are not allowed here"
  | undecodableTag f => f.message
  | zeroIndent => "expected indentation indicator in the range 1-9, but found 0"
  | unknownEscape found => "found unknown escape character " ++ quoted found.toString
  | endOfStream => "found unexpected end of stream"
  | documentSeparator => "found unexpected document separator"
  | duplicateVersion => "found duplicate YAML directive"
  | incompatibleVersion => "found incompatible YAML document (version 1.* is required)"
  | duplicateHandle handle => "duplicate tag handle " ++ quoted handle
  | undefinedHandle handle => "found undefined tag handle " ++ quoted handle
  | undefinedAlias name => "found undefined alias " ++ quoted name
  | secondOccurrence => "second occurrence"
  | anotherDocument => "but found another document"
  | unhashableKey => "found unhashable key"
  | unknownTag tag => "could not determine a constructor for the tag " ++ quoted tag
  | itemCount n => "expected a single mapping item, but found " ++ toString n ++ " items"
  | notAscii lead first count =>
    "failed to convert base64 data into ascii: 'ascii' codec can't encode character" ++
      (if count == 1 then " '" ++ escaped lead ++ "' in position " ++ toString first
      else "s in position " ++ toString first ++ "-" ++ toString (first + count - 1)) ++
      ": ordinal not in range(128)"
  | base64 f => "failed to decode base64 data: " ++ f.text

/-- What is wrong at a place, and what was being read, since which
place. -/
structure Complaint where
  activity : Option Activity
  since : Option Mark
  problem : Problem
  mark : Mark
deriving DecidableEq

/-- A complaint about the text of that name. The place since when
something was being read is told only if it is another place. -/
def Complaint.message (name : String) (c : Complaint) : String :=
  let since := match c.since with
    | none => []
    | some m =>
      if m.line == c.mark.line && m.column == c.mark.column then [] else [m.text name]
  "\n".intercalate
    (c.activity.toList.map Activity.text ++ since ++ [c.problem.text, c.mark.text name])

/-- Why a scalar cannot be what its tag says. -/
inductive ScalarFault where
  | integer (base : Nat) (text : Text)
  | longInteger (digits : Nat)
  | real (text : Text)
  | hugeReal
  | empty
  | truth (text : Text)
  | noTimestamp
  | noText (kind : String)
  | calendar (f : CalendarFault)
deriving DecidableEq

/-- Why a YAML text is not read. -/
inductive Fault where
  | complaint (c : Complaint)
  /-- The character with number `code` at a position is not accepted. -/
  | character (code position : Nat)
  | undecodable (f : Utf8.Fault)
  | scalar (f : ScalarFault)
  /-- An escape names a number beyond the code points. -/
  | beyondCodePoints (n : Nat)
  /-- The digits of a version number are too many. -/
  | longVersion (digits : Nat)
  /-- The collections nest too deeply. -/
  | nesting
deriving DecidableEq

/-- The wording of a scalar's fault. -/
def ScalarFault.message : ScalarFault → String
  | integer base text => "invalid literal for int() with base " ++ toString base ++ ": " ++
      String.ofList (text.quotedChars.take 200)
  | longInteger digits => Number.readingLimitText digits
  | real text => "could not convert string to float: " ++ text.quoted
  | hugeReal => "int too large to convert to float"
  | empty => "string index out of range"
  | truth text => text.quoted
  | noTimestamp => "'NoneType' object has no attribute 'groupdict'"
  | noText kind => "expected string or bytes-like object, got " ++ quoted kind
  | calendar f => f.message

/-- The wording of a fault in the text of that name. -/
def Fault.message (name : String) : Fault → String
  | complaint c => c.message name
  | character code position =>
    "unacceptable character #x" ++ String.ofList (Text.hex 4 code) ++
      ": special characters are not allowed\n  in \"" ++ name ++ "\", position " ++
      toString position
  | undecodable f => f.message
  | scalar f => f.message
  | beyondCodePoints n =>
    if n < 0x80000000 then "chr() arg not in range(0x110000)"
    else "Python int too large to convert to C int"
  | longVersion digits => Number.readingLimitText digits
  | nesting => "maximum recursion depth exceeded"

end DeliveryAudit.Yaml
