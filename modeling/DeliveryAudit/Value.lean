import DeliveryAudit.Bounds
import DeliveryAudit.Calendar
import DeliveryAudit.Number.Decimal
import DeliveryAudit.Number.Shortest
import DeliveryAudit.Text.Quoted
/-!
# Values of answers and settings

What a service answers and what a settings file holds is data of no fixed
shape: the values here. A mapping keeps its entries in insertion order.
`same` is equality of values, in which numbers of different kinds are
compared as numbers; `isTruthy` separates empty and zero values from the
rest; `quoted?` writes a value on one line, unless an integer in it is too
long or its parts are nested too deeply.

A list or a mapping of a settings file may lie inside itself. Such a value
is a `knot`: it has a label, and where it occurs again inside stands
`again` with that label. `unroll` puts the knot itself there.
-/

namespace DeliveryAudit

/-- A value of no fixed shape. -/
inductive Value where
  | null
  | bool (b : Bool)
  | int (n : Int)
  | real (x : Float)
  | text (t : Text)
  | bytes (bs : List UInt8)
  | date (d : Date)
  | moment (m : Moment)
  | list (items : List Value)
  | pair (first second : Value)
  | mapping (entries : List (Value × Value))
  | set (members : List Value)
  /-- A list or a mapping that can be met again inside itself. -/
  | knot (label : Nat) (v : Value)
  /-- The list or mapping of the knot around that has this label. -/
  | again (label : Nat) (isMapping : Bool)

namespace Value

instance : Inhabited Value := ⟨null⟩

/-- The text value of a string. -/
def ofString (s : String) : Value := text (Text.ofString s)

/-- What a value is called in a message. -/
def kindName : Value → String
  | null => "NoneType"
  | bool _ => "bool"
  | int _ => "int"
  | real _ => "float"
  | text _ => "str"
  | bytes _ => "bytes"
  | date _ => "datetime.date"
  | moment _ => "datetime.datetime"
  | list _ => "list"
  | pair _ _ => "tuple"
  | mapping _ => "dict"
  | set _ => "set"
  | knot _ v => v.kindName
  | again _ isMapping => if isMapping then "dict" else "list"

/-- Whether a value is neither empty, nor zero, nor missing. -/
def isTruthy : Value → Bool
  | null => false
  | bool b => b
  | int n => n != 0
  | real x => x != 0
  | text t => !t.isEmpty
  | bytes bs => !bs.isEmpty
  | list items => !items.isEmpty
  | mapping entries => !entries.isEmpty
  | set members => !members.isEmpty
  | knot _ v => v.isTruthy
  | date _ | moment _ | pair _ _ | again _ _ => true

/-- How many parts a value has, for those that have parts. -/
def size? : Value → Option Nat
  | text t => some t.length
  | bytes bs => some bs.length
  | list items => some items.length
  | pair _ _ => some 2
  | mapping entries => some entries.length
  | set members => some members.length
  | knot _ v => v.size?
  | _ => none

/-- Whether a value can be a key of a mapping. -/
def isHashable : Value → Bool
  | list _ | mapping _ | set _ | knot _ _ | again _ _ => false
  | pair a b => a.isHashable && b.isHashable
  | _ => true

/-- Whether an integer equals a binary64 number. -/
def sameIntReal (n : Int) (x : Float) : Bool :=
  match Number.parts x with
  | .finite negative mantissa exponent =>
    let (num, den) := Number.scale mantissa exponent
    num % den == 0 && Number.truncate negative mantissa exponent == n
  | _ => false

/-- The integer that a truth value counts as, or an integer is. -/
def asInt? : Value → Option Int
  | bool b => some (if b then 1 else 0)
  | int n => some n
  | _ => none

/-- Equality of two values of which neither has parts. -/
def sameLeaf (v w : Value) : Bool :=
  match v, w with
  | null, null => true
  | text s, text t => s == t
  | bytes s, bytes t => s == t
  | date d, date e => d == e
  | moment m, moment n => m.same n
  | real x, real y => x == y
  | real x, w => match w.asInt? with
    | some n => sameIntReal n x
    | none => false
  | v, real y => match v.asInt? with
    | some n => sameIntReal n y
    | none => false
  | v, w => match v.asInt?, w.asInt? with
    | some m, some n => m == n
    | _, _ => false

mutual

/-- Equality of values. -/
def same : Value → Value → Bool
  | list vs, list ws => sameAll vs ws
  | pair a b, pair c d => same a c && same b d
  | mapping es, mapping fs => es.length == fs.length && includedIn es fs
  | set vs, set ws => vs.length == ws.length && allAmong vs ws
  | v, w => sameLeaf v w

/-- Equality of two lists, value by value. -/
def sameAll : List Value → List Value → Bool
  | [], [] => true
  | v :: vs, w :: ws => same v w && sameAll vs ws
  | _, _ => false

/-- Whether every entry has an equal one among the others. -/
def includedIn : List (Value × Value) → List (Value × Value) → Bool
  | [], _ => true
  | (k, v) :: es, fs => (fs.any fun f => same k f.1 && same v f.2) && includedIn es fs

/-- Whether every value has an equal one among the others. -/
def allAmong : List Value → List Value → Bool
  | [], _ => true
  | v :: vs, ws => (ws.any fun w => same v w) && allAmong vs ws

end

/-- The value that entries give a text. -/
def entry? (name : String) (entries : List (Value × Value)) : Option Value :=
  (entries.find? fun e => e.1.same (ofString name)).map Prod.snd

mutual

/-- A value with `w` put where it refers to the label. -/
def fill (label : Nat) (w : Value) : Value → Value
  | list items => list (fillAll label w items)
  | pair a b => pair (fill label w a) (fill label w b)
  | mapping entries => mapping (fillEntries label w entries)
  | knot l v => knot l (fill label w v)
  | again l isMapping => if l == label then w else again l isMapping
  | v => v

/-- Values, each with `w` put where it refers to the label. -/
def fillAll (label : Nat) (w : Value) : List Value → List Value
  | [] => []
  | v :: vs => fill label w v :: fillAll label w vs

/-- Entries, each with `w` put where it refers to the label. -/
def fillEntries (label : Nat) (w : Value) : List (Value × Value) → List (Value × Value)
  | [] => []
  | (k, v) :: es => (fill label w k, fill label w v) :: fillEntries label w es

end

/-- The list or mapping that a knot is, with the knot itself where it
occurs again; any other value as it is. -/
def unroll : Value → Value
  | knot label v => fill label (knot label v) v
  | v => v

/-- The entries of a mapping. -/
def entries? (v : Value) : Option (List (Value × Value)) :=
  match v.unroll with
  | mapping entries => some entries
  | _ => none

/-- The short form of a list or a mapping inside itself. -/
def dots (isMapping : Bool) : String := if isMapping then "\x7b...\x7d" else "[...]"

/-- Whether a value is a mapping. -/
def isMapping : Value → Bool
  | mapping _ | again _ true => true
  | knot _ v => v.isMapping
  | _ => false

/-- Why a value is not written on one line. -/
inductive QuotingFault where
  /-- An integer in it has too many digits. -/
  | tooLong
  /-- Its parts are nested too deeply. -/
  | tooDeep
deriving DecidableEq

/-- The wording of a value that is not written. -/
def QuotingFault.message : QuotingFault → String
  | tooLong => Number.writingLimitText
  | tooDeep => "maximum recursion depth exceeded while getting the repr of an object"

/-- How deep parts may lie in a part, by how deep they may lie in the
whole. -/
def inside : Nat → Except QuotingFault Nat
  | 0 => .error .tooDeep
  | depth + 1 => .ok depth

mutual

/-- A value on one line, inside the knots with the labels `around`. -/
def quotedIn (depth : Nat) (around : List Nat) : Value → Except QuotingFault String
  | null => .ok "None"
  | bool b => .ok (if b then "True" else "False")
  | int n => (Number.decimal? n).elim (.error .tooLong) .ok
  | real x => .ok (Number.shortest x)
  | text t => .ok t.quoted
  | bytes bs => .ok (Bytes.quoted bs)
  | date d => .ok d.text
  | moment m => .ok m.text
  | list items => do
    let ss ← quotedAll depth around items
    return "[" ++ ", ".intercalate ss ++ "]"
  | pair a b => do
    let depth ← inside depth
    let a ← quotedIn depth around a
    let b ← quotedIn depth around b
    return "(" ++ a ++ ", " ++ b ++ ")"
  | mapping entries => do
    let ss ← quotedEntries depth around entries
    return "\x7b" ++ ", ".intercalate ss ++ "\x7d"
  | set [] => .ok "set()"
  | set members => do
    -- The members are written as those of a list, which is a part of its own.
    let depth ← inside depth
    let ss ← quotedAll depth around members
    return "\x7b" ++ ", ".intercalate ss ++ "\x7d"
  | knot label v =>
    if around.contains label then .ok (dots v.isMapping) else quotedIn depth (label :: around) v
  | again _ isMapping => .ok (dots isMapping)

/-- The parts of a value, each on one line. -/
def quotedAll (depth : Nat) (around : List Nat) : List Value → Except QuotingFault (List String)
  | [] => .ok []
  | v :: vs => do
    let s ← quotedIn (← inside depth) around v
    let ss ← quotedAll depth around vs
    return s :: ss

/-- The entries of a mapping, each on one line. -/
def quotedEntries (depth : Nat) (around : List Nat) :
    List (Value × Value) → Except QuotingFault (List String)
  | [] => .ok []
  | (k, v) :: es => do
    let below ← inside depth
    let k ← quotedIn below around k
    let v ← quotedIn below around v
    let ss ← quotedEntries depth around es
    return (k ++ ": " ++ v) :: ss

end

variable [Bounds]

/-- A value on one line. -/
def quoted? (v : Value) : Except QuotingFault String := v.quotedIn Bounds.parts []

/-- A value on one line, with dots for what cannot be written. -/
def quoted (v : Value) : String :=
  match v.quoted? with
  | .ok s => s
  | .error _ => "..."

/-- A value inside a message: a text as it is, any other value on one
line. -/
def display : Value → Text
  | text t => t
  | v => Text.ofString v.quoted

end Value

end DeliveryAudit
