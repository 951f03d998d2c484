/-!
# Places in a text

A mark is a place in a text: how many characters lie before it, and its
line and column, all counted from zero. The classes of characters are
those that end lines, words and tokens; NUL, which no accepted text holds,
stands for the end of the text.
-/

namespace DeliveryAudit.Yaml

/-- A place in a text. -/
structure Mark where
  index : Nat
  line : Nat
  column : Nat
deriving DecidableEq

/-- Whether a character ends a line. -/
def isBreak (c : Char) : Bool := c == '\n' || c == '\x85' || c == '\u2028' || c == '\u2029'

/-- Whether a line ends before a character. -/
def endsLine (c : Char) : Bool := c == '\x00' || isBreak c

/-- Whether a line ends at a character, or a space follows. -/
def endsToken (c : Char) : Bool := c == ' ' || endsLine c

/-- Whether a line ends at a character, or a space or a tab follows. -/
def endsWord (c : Char) : Bool := c == '\t' || endsToken c

/-- Whether a character may stand in the name of an anchor, a handle or a
directive. -/
def isNameChar (c : Char) : Bool := c.isAlphanum || c == '-' || c == '_'

/-- The place after a character. A byte order mark takes no column. -/
def Mark.step (m : Mark) (c : Char) : Mark :=
  if isBreak c then ⟨m.index + 1, m.line + 1, 0⟩
  else if c == '\ufeff' then ⟨m.index + 1, m.line, m.column⟩
  else ⟨m.index + 1, m.line, m.column + 1⟩

/-- A mark in the text of that name, in writing. -/
def Mark.text (name : String) (m : Mark) : String :=
  "  in \"" ++ name ++ "\", line " ++ toString (m.line + 1) ++ ", column " ++
    toString (m.column + 1)

end DeliveryAudit.Yaml
