import DeliveryAudit.Proofs.Yaml.Making
import DeliveryAudit.Proofs.Yaml.Reading
import DeliveryAudit.Proofs.Yaml.Source
/-!
# Why a file is not read

The bytes of a file are decoded and cut into tokens, these are read as nodes,
and the nodes become objects. What goes wrong on the way is complained of, or it
is one of a few things that nothing checks (`Unforeseen`), each of which shows in
the bytes, in the text or in its tokens (`cause_of_read`).
-/

namespace DeliveryAudit.Yaml

variable {bytes : List UInt8} {f : Fault}

/-- The text of a file up to its first fault. -/
def textOf (bytes : List UInt8) : List Char := (Source.ofBytes bytes).text

/-- The tokens of that text. -/
def tokensOf (bytes : List UInt8) : TokenStream := TokenStream.ofSource (Source.ofBytes bytes)

/-- The reading of a file starts at the start of its tokens. -/
theorem at_start (bytes : List UInt8) :
    Reading.At (tokensOf bytes) .empty
      (Next .streamStart
        (Within (tokensOf bytes).tokens.length (deepest (tokensOf bytes).tokens)))
      ⟨(tokensOf bytes).tokens, (tokensOf bytes).fault, .empty, [], Read.commonHandles⟩ where
  tokens := ⟨⟨Nat.le_refl _, Nat.le_refl _⟩, .inr (TokenStream.starts _)⟩
  suffix := List.suffix_rfl
  fault := rfl
  grows := .refl _
  usual _ := Node.usual_empty _

variable [Bounds]

/-- **Why bytes are not read although nothing complains of them.** -/
inductive Unforeseen (bytes : List UInt8) : Fault → Prop
  /-- They are no text. -/
  | undecodable {u : Utf8.Fault} : (∀ cs, bytes ≠ Utf8.encode cs) →
    Unforeseen bytes (.undecodable u)
  /-- An escape of eight digits stands in the text, and no code point has that number. -/
  | beyondCodePoints {digits : List Char} : '\\' :: 'U' :: digits <:+: textOf bytes →
    digits.length = 8 → (∀ d ∈ digits, Lex.isHexDigit d = true) →
    0x110000 ≤ Lex.hexNumber digits → Unforeseen bytes (.beyondCodePoints (Lex.hexNumber digits))
  /-- More digits stand in the text one after the other than a number may have. -/
  | longVersion {digits : List Char} : digits <:+: textOf bytes →
    (∀ d ∈ digits, d.isDigit = true) → Number.digitLimit < digits.length →
    Unforeseen bytes (.longVersion digits.length)
  /-- A plain scalar is not what its form promises, or a tag is written that may promise
  anything. -/
  | scalar {s : ScalarFault} : (tokensOf bytes).Tagged ∨ (tokensOf bytes).Breaks s →
    Unforeseen bytes (.scalar s)
  /-- Collections nest too deeply, or there are merge keys or tags, which may lead on and on. -/
  | nesting : Bounds.collections < 2 * deepest (tokensOf bytes).tokens ∨
    (tokensOf bytes).Tagged ∨ (tokensOf bytes).Merges → Unforeseen bytes .nesting

/-- Whether something complains: of what stands at a place, or of a character that is not
accepted. -/
def Fault.IsComplaint (f : Fault) : Prop :=
  (∃ c, f = .complaint c) ∨ ∃ code position, f = .character code position

/-- What ends the cutting of a file is complained of or not foreseen. -/
theorem cause_of_cut (hf : (tokensOf bytes).fault = some f) :
    f.IsComplaint ∨ Unforeseen bytes f := by
  cases TokenStream.unread_of_ofSource hf with
  | complaint c => exact .inl (.inl ⟨c, rfl⟩)
  | following h =>
    rcases Source.undecodable_of_ofBytes h with hcharacter | ⟨u, rfl, hbytes⟩
    · exact .inl (.inr hcharacter)
    · exact .inr (.undecodable hbytes)
  | beyondCodePoints h hlength hdigits hnumber =>
    exact .inr (.beyondCodePoints h hlength hdigits hnumber)
  | longVersion h hdigits hlength => exact .inr (.longVersion h hdigits hlength)

/-- **A file that is not read** is complained of, or what is wrong is not foreseen. -/
theorem cause_of_read (h : read bytes = .error f) : f.IsComplaint ∨ Unforeseen bytes f := by
  have hbudget : 3 * (tokensOf bytes).tokens.length + 4 ≤
      4 * (tokensOf bytes).tokens.length + 16 := by omega
  have hends := Read.reads_document hbudget (Nat.lt_or_ge _ _) .empty _ (at_start bytes)
  -- Either the tokens are not read, or the nodes do not become objects.
  rcases Except.cases_of_bind_eq_error h with h | ⟨⟨root, r⟩, hread, h⟩
  · cases hends.of_error h with
    | complaint c => exact .inl (.inl ⟨c, rfl⟩)
    | following hf => exact cause_of_cut hf
    | nesting hdeep => exact .inr (.nesting (.inl hdeep))
  · have hread := hends.of_ok hread
    cases root with
    | none => cases h
    | some root =>
      rcases Except.cases_of_bind_eq_error h with h | ⟨objects, -, h⟩
      · cases Objects.unmade_of_ofGraph hread.usual h with
        | complaint c => exact .inl (.inl ⟨c, rfl⟩)
        | scalar hscalar => exact .inr (.scalar hscalar)
        | nesting hnesting => exact .inr (.nesting (.inr hnesting))
      · cases h

end DeliveryAudit.Yaml
