import DeliveryAudit.Yaml.Scalar.Timestamp
/-!
# The tags of plain scalars

A plain scalar without a tag gets one by its form: a truth value, a real
number, an integer, nothing, a timestamp, one of the two marks that have a
meaning as keys, or a lone indicator; any other is text. A newline at the
end of the text does not count. A scalar of any style gets its tag in this
way if the tag is left open on purpose.
-/

namespace DeliveryAudit.Yaml

/-- The tags that every text knows. -/
inductive Tag where
  | null
  | bool
  | int
  | float
  | binary
  | timestamp
  | omap
  | pairs
  | set
  | str
  | seq
  | map
  | merge
  | value
  | yaml
deriving DecidableEq

namespace Tag

/-- The stem of the tags that every text knows. -/
def stem : String := "tag:yaml.org,2002:"

/-- All tags, with their names. -/
def table : List (String × Tag) :=
  [("null", null), ("bool", bool), ("int", int), ("float", float), ("binary", binary),
    ("timestamp", timestamp), ("omap", omap), ("pairs", pairs), ("set", set), ("str", str),
    ("seq", seq), ("map", map), ("merge", merge), ("value", value), ("yaml", yaml)]

/-- The tag that is written in full. -/
def ofText? (text : String) : Option Tag :=
  (table.find? fun e => stem ++ e.1 == text).map Prod.snd

/-- A tag in full. -/
def text (t : Tag) : String :=
  stem ++ ((table.find? fun e => e.2 == t).map Prod.fst).getD ""

end Tag

namespace Schema

/-- The words that are truth values. -/
def truthWords : List String :=
  ["yes", "Yes", "YES", "no", "No", "NO", "true", "True", "TRUE", "false", "False", "FALSE",
    "on", "On", "ON", "off", "Off", "OFF"]

/-- The words for nothing. -/
def nullWords : List String := ["~", "null", "Null", "NULL", ""]

/-- The indicators of tags, anchors and aliases. -/
def indicators : List String := ["!", "&", "*"]

/-- A text without the sign at its front. -/
def dropSign (cs : List Char) : List Char :=
  match cs with
  | c :: rest => if c == '-' || c == '+' then rest else cs
  | [] => []

/-- Whether a character is a digit or an underscore. -/
def isSpacedDigit (c : Char) : Bool := c.isDigit || c == '_'

/-- What follows digits and underscores that start with a digit which
satisfies `p`. -/
def afterDigits (p : Char → Bool) (cs : List Char) : Option (List Char) :=
  match cs with
  | c :: rest => if c.isDigit && p c then some (rest.dropWhile isSpacedDigit) else none
  | [] => none

/-- Whether a text is an exponent with its sign, or nothing. -/
def isExponent (cs : List Char) : Bool :=
  match cs with
  | [] => true
  | e :: sign :: ds =>
    (e == 'e' || e == 'E') && (sign == '-' || sign == '+') && !ds.isEmpty && ds.all Char.isDigit
  | _ => false

/-- What follows numbers below sixty, each after a colon; none if there
is not one. -/
def afterSixties : Nat → List Char → Option (List Char)
  | 0, _ => none
  | budget + 1, cs =>
    match cs with
    | ':' :: rest =>
      let ds := rest.takeWhile Char.isDigit
      let after := rest.dropWhile Char.isDigit
      if ds.length == 1 || (ds.length == 2 && ds.headD '9' ≤ '5') then
        if after.head? == some ':' then afterSixties budget after else some after
      else
        none
    | _ => none

/-- Whether a text is a decimal fraction after its sign. -/
def isFraction (cs : List Char) : Bool :=
  match afterDigits (fun _ => true) cs with
  | some ('.' :: rest) => isExponent (rest.dropWhile isSpacedDigit)
  | _ => false

/-- Whether a text is a fraction in sixties after its sign. -/
def isSixtiesFraction (cs : List Char) : Bool :=
  match (afterDigits (fun _ => true) cs).bind (afterSixties cs.length) with
  | some ('.' :: rest) => rest.all isSpacedDigit
  | _ => false

/-- Whether a text is a fraction without an integer part. -/
def isBareFraction (cs : List Char) : Bool :=
  match cs with
  | '.' :: rest =>
    match afterDigits (fun _ => true) rest with
    | some after => isExponent after
    | none => false
  | _ => false

/-- Whether a text has the form of a real number. -/
def isReal (cs : List Char) : Bool :=
  let unsigned := dropSign cs
  isFraction unsigned || isBareFraction cs || isSixtiesFraction unsigned ||
    [".inf", ".Inf", ".INF"].contains (String.ofList unsigned) ||
    [".nan", ".NaN", ".NAN"].contains (String.ofList cs)

/-- Whether a text is a run of characters that satisfy `p`, or of
underscores. -/
def isRun (p : Char → Bool) (cs : List Char) : Bool :=
  !cs.isEmpty && cs.all fun c => p c || c == '_'

/-- Whether a text has the form of an integer. -/
def isInteger (cs : List Char) : Bool :=
  let cs := dropSign cs
  match cs with
  | ['0'] => true
  | '0' :: 'b' :: ds => isRun (fun c => c == '0' || c == '1') ds
  | '0' :: 'x' :: ds => isRun (fun c => Number.digitOf c < 16) ds
  | '0' :: ds => isRun (fun c => '0' ≤ c && c ≤ '7') ds
  | _ =>
    match afterDigits (· != '0') cs with
    | some [] => true
    | some after => afterSixties after.length after == some []
    | none => false

/-- Whether a text has the form of a timestamp. -/
def isTimestamp (cs : List Char) : Bool :=
  match Timestamp.ofChars? cs with
  | some t => t.hasTime || t.padded
  | none => false

/-- A text without the newline at its end. -/
def dropFinalNewline (cs : List Char) : List Char :=
  if cs.getLast? == some '\n' then cs.dropLast else cs

/-- The tag of a plain scalar. -/
def tagOf (content : Text) : Tag :=
  match content.mapM CodePoint.toChar? with
  | none => .str
  | some ['\n'] => .str
  | some cs =>
    let cs := dropFinalNewline cs
    let word := String.ofList cs
    if truthWords.contains word then .bool
    else if isReal cs then .float
    else if isInteger cs then .int
    else if word == "<<" then .merge
    else if nullWords.contains word then .null
    else if isTimestamp cs then .timestamp
    else if word == "=" then .value
    else if indicators.contains word then .yaml
    else .str

end Schema

end DeliveryAudit.Yaml
