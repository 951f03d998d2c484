/-!
# Code points

Text read from a delivered line or a settings file is a sequence of code
points. An escape in either format can name half of a surrogate pair, so
a code point is a scalar value or such a half standing alone.
-/

namespace DeliveryAudit

/-- A code point: a scalar value, or the surrogate `0xD800 + offset`
standing alone. -/
inductive CodePoint where
  | scalar (c : Char)
  | surrogate (offset : Fin 2048)
deriving DecidableEq

namespace CodePoint

instance : Inhabited CodePoint := ⟨.scalar 'A'⟩

/-- The number of a code point. -/
def value : CodePoint → Nat
  | scalar c => c.toNat
  | surrogate o => 0xD800 + o.val

instance : Hashable CodePoint := ⟨fun p => hash p.value⟩

/-- The code point with number `n`, for every `n` below `0x110000`. -/
def ofNat? (n : Nat) : Option CodePoint :=
  if h : n.isValidChar then
    some (scalar (Char.ofNatAux n h))
  else if n < 0xD800 then
    none
  else if h : n - 0xD800 < 2048 then
    some (surrogate ⟨n - 0xD800, h⟩)
  else
    none

/-- The scalar value, where there is one. -/
def toChar? : CodePoint → Option Char
  | scalar c => some c
  | surrogate _ => none

/-- Whether a code point is one of the ten digits. -/
def isDigit : CodePoint → Bool
  | scalar c => c.isDigit
  | surrogate _ => false

end CodePoint

/-- Text as a sequence of code points. -/
abbrev Text := List CodePoint

namespace Text

/-- The code points of a string, none of which is a surrogate. -/
def ofString (s : String) : Text := s.toList.map .scalar

/-- The string with these code points, unless a surrogate stands among
them. -/
def toString? (t : Text) : Option String :=
  (t.mapM CodePoint.toChar?).map String.ofList

/-- The characters of a text; a surrogate standing alone is none. -/
def chars (t : Text) : List Char := t.filterMap CodePoint.toChar?

/-- Text of scalar values is the string it came from. -/
@[simp] theorem toString?_ofString (s : String) : (ofString s).toString? = some s := by
  have h : ∀ cs : List Char,
      (cs.map CodePoint.scalar).mapM CodePoint.toChar? = some cs := by
    intro cs
    induction cs with
    | nil => rfl
    | cons c cs ih => simp [CodePoint.toChar?, ih]
  simp [toString?, ofString, h]

/-- Equal texts come from equal strings. -/
theorem ofString_injective {s t : String} (h : ofString s = ofString t) : s = t := by
  have := congrArg toString? h
  simpa using this

end Text

end DeliveryAudit
