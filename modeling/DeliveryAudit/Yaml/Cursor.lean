import DeliveryAudit.Yaml.Source
/-!
# Reading with a cursor

A cursor is a place in a text together with the characters that are still
to be read. The text ends, or a fault follows it: whoever looks beyond its
last character meets the fault. Where the text ends, NUL is found.

`Lex` reads with a cursor. Passing characters looks at the one after them
too, since a line may end with it.
-/

namespace DeliveryAudit.Yaml

/-- A place in a text of `size` characters, what is still to be read, and
the fault that follows the text, if one does. -/
structure Cursor where
  mark : Mark
  rest : List Char
  size : Nat
  fault : Option Fault

namespace Cursor

/-- The start of a source. -/
def start (source : Source) : Cursor :=
  ⟨⟨0, 0, 0⟩, source.text, source.text.length, source.fault⟩

/-- How many characters are still to be read. -/
def left (c : Cursor) : Nat := c.size - c.mark.index

/-- The cursor after `n` more characters. -/
def skip (c : Cursor) : Nat → Cursor
  | 0 => c
  | n + 1 =>
    match c.rest with
    | [] => c
    | d :: rest => skip { c with mark := c.mark.step d, rest := rest } n

end Cursor

/-- An action that reads a text. -/
abbrev Lex := StateT Cursor (Except Fault)

namespace Lex

/-- The place of the cursor. -/
def mark : Lex Mark := do
  return (← get).mark

/-- The column of the cursor. -/
def column : Lex Nat := do
  return (← get).mark.column

/-- How many characters are still to be read, and one more: enough rounds
for what takes a character in each. -/
def rounds : Lex Nat := do
  return (← get).left + 1

/-- Looking at `n` characters: if there are fewer and a fault follows
them, it is met. -/
def need (n : Nat) : Lex Unit := do
  let c ← get
  match c.fault with
  | some f => if (c.rest.take n).length < n then throw f
  | none => return ()

/-- The character `n` places further on. -/
def peek (n : Nat) : Lex Char := do
  need (n + 1)
  return (← get).rest.getD n '\x00'

/-- The next character. -/
def next : Lex Char := peek 0

/-- The next `n` characters, or all that are left. -/
def look (n : Nat) : Lex (List Char) := do
  need n
  return (← get).rest.take n

/-- The characters from `n` places further on that satisfy `p`, up to one
that does not. -/
def ahead (n : Nat) (p : Char → Bool) : Lex (List Char) := do
  let cs := ((← get).rest.drop n).takeWhile p
  need (n + cs.length + 1)
  return cs

/-- The next characters that satisfy `p`, `most` of them at most. -/
def aheadUpTo (most : Nat) (p : Char → Bool) : Lex (List Char) := do
  let cs := ((← get).rest.take most).takeWhile p
  need (min most (cs.length + 1))
  return cs

/-- Passing `n` characters. -/
def skip (n : Nat) : Lex Unit := do
  need (n + 1)
  modify fun c => c.skip n

/-- Passing the characters that satisfy `p`. -/
def skipWhile (p : Char → Bool) : Lex (List Char) := do
  let cs ← ahead 0 p
  skip cs.length
  return cs

/-- Passing spaces. -/
def skipSpaces : Lex Unit := do
  let _ ← skipWhile (· == ' ')

/-- Passing a comment, when one starts here. -/
def skipComment : Lex Unit := do
  if (← next) == '#' then
    let _ ← skipWhile fun d => !endsLine d

/-- Passing a line break, as it counts in a scalar; nothing where there is
none. -/
def lineBreak : Lex (List Char) := do
  let c ← next
  if c == '\u2028' || c == '\u2029' then
    skip 1
    return [c]
  else if isBreak c then
    skip 1
    return ['\n']
  else
    return []

/-- Whether a line that separates documents starts here. -/
def atSeparator : Lex Bool := do
  let cs ← look 3
  if cs == ['-', '-', '-'] || cs == ['.', '.', '.'] then
    return endsWord (← peek 3)
  else
    return false

/-- A complaint about what is found at a place. -/
def complainAt {α : Type} (m : Mark) (activity : Activity) (since : Mark) (problem : Problem) :
    Lex α :=
  throw (.complaint ⟨some activity, some since, problem, m⟩)

/-- A complaint about what is found here. -/
def complain {α : Type} (activity : Activity) (since : Mark) (problem : Problem) : Lex α := do
  complainAt (← mark) activity since problem

end Lex

end DeliveryAudit.Yaml
