import DeliveryAudit.Text.Digit
/-!
# Words of a command line

Every word of a command line has a role: it is an operand, names an
option, or is the divider, after which all words are operands. An option
may be named by the start of its name, and a text may be attached to it.
A word that looks like a negative number or holds a blank is an operand,
unless it names an option.
-/

namespace DeliveryAudit

/-- The options of the program. -/
inductive CommandOption where
  | help
  | config
  | verbose
deriving DecidableEq

namespace CommandOption

/-- The names of the options, in the order in which messages list them. -/
def names : List (String × CommandOption) :=
  [("-h", help), ("--help", help), ("--config", config), ("--verbose", verbose)]

/-- The option with this name. -/
def ofName? (name : String) : Option CommandOption := names.lookup name

/-- What an option is called in messages. -/
def title : CommandOption → String
  | help => "-h/--help"
  | config => "--config"
  | verbose => "--verbose"

end CommandOption

/-- What a word of a command line is. -/
inductive Role where
  | operand
  | divider
  | option (o : CommandOption)
  /-- A text is attached to an option that takes one. -/
  | attached (o : CommandOption) (text : String)
  /-- A text is attached to an option that takes none. -/
  | surplus (o : CommandOption) (text : String)
  | unknown
deriving DecidableEq

/-- A word that could be the start of several names. -/
structure Ambiguity where
  word : String
  names : List String
deriving DecidableEq

namespace Role

/-- The word that is the divider. -/
def dividerWord : String := "--"

/-- A word up to the first equals sign, and what follows the sign, if
there is one. -/
def split (cs : List Char) : List Char × Option (List Char) :=
  (cs.takeWhile (· != '='), (cs.dropWhile (· != '=')).tail?)

/-- Whether all characters are decimal digits, of any script. -/
def areDigits (cs : List Char) : Bool := cs.all fun c => (Text.digitValue? c.toNat).isSome

/-- Whether characters make an unsigned number, with or without a
point. -/
def isUnsigned (cs : List Char) : Bool :=
  match cs.span (· != '.') with
  | (whole, []) => areDigits whole && !whole.isEmpty
  | (whole, _ :: places) => areDigits whole && areDigits places && !places.isEmpty

/-- Whether a word looks like a negative number. A newline at its end does
not count. -/
def isNegative : List Char → Bool
  | '-' :: cs => isUnsigned cs || (cs.getLast? == some '\n' && isUnsigned cs.dropLast)
  | _ => false

/-- The role of a word that names this option and has perhaps a text
attached by an equals sign. -/
def ofOption (o : CommandOption) : Option String → Role
  | none => option o
  | some text => if o = .config then attached o text else surplus o text

/-- The role of a word that names a short option with this letter and goes
on with a text: the same letter names the option again, and anything else
is attached to it. -/
def ofLetters (o : CommandOption) (letter : Char) : List Char → Role
  | [] => option o
  | c :: text =>
    if c = letter then ofLetters o letter text else surplus o (String.ofList (c :: text))

/-- The role of a word that names a short option with this letter and goes
on with a text. An equals sign directly after the first letter only parts
the two. -/
def ofShort (o : CommandOption) (letter : Char) : List Char → Role
  | ['='] => surplus o ""
  | '=' :: text => ofLetters o letter text
  | text => ofLetters o letter text

/-- The role of a word that is not the name of an option, with two hyphens
in front: it names the options whose names it starts. -/
def ofLong (cs : List Char) : Except Ambiguity (Option Role) :=
  let (stem, text) := split cs
  match CommandOption.names.filter fun n => stem.isPrefixOf n.1.toList with
  | [] => .ok none
  | [(_, o)] => .ok (some (ofOption o (text.map String.ofList)))
  | ns => .error ⟨String.ofList cs, ns.map Prod.fst⟩

/-- The role of a word with a hyphen in front that is not the name of an
option, if it names one nevertheless. -/
def named (cs : List Char) : Except Ambiguity (Option Role) :=
  match cs with
  | '-' :: '-' :: _ => ofLong cs
  | '-' :: letter :: text =>
    .ok ((CommandOption.ofName? (String.ofList ['-', letter])).map fun o =>
      ofShort o letter text)
  | _ => .ok none

/-- The role of a word before the divider. -/
def ofWord (word : String) : Except Ambiguity Role :=
  let cs := word.toList
  if cs.head? != some '-' || cs.length == 1 then .ok operand
  else
    match CommandOption.ofName? word with
    | some o => .ok (option o)
    | none =>
      match named cs with
      | .error a => .error a
      | .ok (some r) => .ok r
      | .ok none => .ok (if isNegative cs || cs.contains ' ' then operand else unknown)

/-- Words with their roles. -/
def ofWords : List String → Except Ambiguity (List (String × Role))
  | [] => .ok []
  | w :: ws =>
    if w = dividerWord then
      .ok ((w, divider) :: ws.map fun v => (v, operand))
    else
      match ofWord w, ofWords ws with
      | .error a, _ => .error a
      | .ok _, .error a => .error a
      | .ok r, .ok rs => .ok ((w, r) :: rs)

end Role

end DeliveryAudit
