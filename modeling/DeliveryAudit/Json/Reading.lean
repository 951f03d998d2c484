import DeliveryAudit.Bounds
import DeliveryAudit.Json.Syntax
import DeliveryAudit.Number.Numeral
/-!
# Reading JSON

A text is read as one JSON value with blanks around it. The numbers `NaN`,
`Infinity` and `-Infinity` are read, control characters inside strings are
not, and an escape may name half of a surrogate pair. A fault names what
was missing and the place, counted from the end of the text; `Fault.message`
turns that into a line and a column. Two faults have no place: an integer
with too many digits, and nesting beyond the bounds.
-/

namespace DeliveryAudit.Json

/-- What a text lacks at a place. -/
inductive Lack where
  | value
  | propertyName
  | colon
  | comma
  | extraData
  | byteOrderMark
  | controlCharacter
  | stringEnd
  | escape
  | unicodeEscape
deriving DecidableEq

/-- The two kinds of value that nest. -/
inductive Container where
  | array
  | object
deriving DecidableEq

/-- Why a text is not read. -/
inductive Fault where
  /-- Something is missing where `left` characters are still to be
  read. -/
  | lack (what : Lack) (left : Nat)
  /-- An integer has more digits than can be read. -/
  | longInteger (digits : Nat)
  /-- The value nests too deeply, at a container of this kind. -/
  | nesting (container : Container)
deriving DecidableEq

/-- The wording of what is missing. -/
def Lack.text : Lack → String
  | value => "Expecting value"
  | propertyName => "Expecting property name enclosed in double quotes"
  | colon => "Expecting ':' delimiter"
  | comma => "Expecting ',' delimiter"
  | extraData => "Extra data"
  | byteOrderMark => "Unexpected UTF-8 BOM (decode using utf-8-sig)"
  | controlCharacter => "Invalid control character at"
  | stringEnd => "Unterminated string starting at"
  | escape => "Invalid \\escape"
  | unicodeEscape => "Invalid \\uXXXX escape"

/-- The wording of a lack at the place where `left` characters of the text
are to be read. -/
def Lack.message (what : Lack) (text : Text) (left : Nat) : String :=
  let position := text.length - left
  let before := text.take position
  let line := before.count (.scalar '\n') + 1
  let column := (before.reverse.takeWhile (· != .scalar '\n')).length + 1
  what.text ++ ": line " ++ toString line ++ " column " ++ toString column ++
    " (char " ++ toString position ++ ")"

/-- What is left of a text of `n` characters once something has been read
from it. -/
abbrev Left (n : Nat) := { r : Text // r.length < n }

/-- Whether a character separates tokens. -/
def isBlank : CodePoint → Bool
  | .scalar c => c == ' ' || c == '\t' || c == '\n' || c == '\r'
  | .surrogate _ => false

/-- A text from its first character that is no blank. -/
def skipBlanks (cs : Text) : Text := cs.dropWhile isBlank

/-- Dropping characters makes no text longer. -/
theorem length_dropWhile_le (p : CodePoint → Bool) (cs : Text) :
    (cs.dropWhile p).length ≤ cs.length :=
  (List.dropWhile_suffix p).length_le

/-- Skipping blanks makes no text longer. -/
theorem skipBlanks_length_le (cs : Text) : (skipBlanks cs).length ≤ cs.length :=
  length_dropWhile_le _ _

/-- What follows the first character that is no blank is shorter than the
text. -/
theorem length_lt_of_skipBlanks {cs tail : Text} {c : CodePoint}
    (h : skipBlanks cs = c :: tail) : tail.length < cs.length := by
  have := skipBlanks_length_le cs
  rw [h, List.length_cons] at this
  omega

/-- The value of a hexadecimal digit. -/
def hexDigit? : CodePoint → Option Nat
  | .scalar c =>
    let d := Number.digitOf c
    if d < 16 then some d else none
  | .surrogate _ => none

/-- The value of four hexadecimal digits. -/
def hex4? (a b c d : CodePoint) : Option Nat := do
  let a ← hexDigit? a
  let b ← hexDigit? b
  let c ← hexDigit? c
  let d ← hexDigit? d
  return ((a * 16 + b) * 16 + c) * 16 + d

/-- The character a one-letter escape stands for. -/
def shortEscape? : CodePoint → Option Char
  | .scalar '"' => some '"'
  | .scalar '\\' => some '\\'
  | .scalar '/' => some '/'
  | .scalar 'b' => some '\x08'
  | .scalar 'f' => some '\x0c'
  | .scalar 'n' => some '\n'
  | .scalar 'r' => some '\r'
  | .scalar 't' => some '\t'
  | _ => none

/-- Whether a number is the first half of a surrogate pair. -/
def isHighSurrogate (n : Nat) : Bool := 0xD800 ≤ n && n ≤ 0xDBFF

/-- Whether a number is the second half of a surrogate pair. -/
def isLowSurrogate (n : Nat) : Bool := 0xDC00 ≤ n && n ≤ 0xDFFF

/-- The number that a surrogate pair stands for. -/
def joinSurrogates (high low : Nat) : Nat := 0x10000 + (high - 0xD800) * 1024 + (low - 0xDC00)

/-- The code point with a number that an escape can name. -/
def named (n : Nat) : CodePoint := (CodePoint.ofNat? n).getD default

/-- What follows `\u`: the code point, and what is left. A second escape
is joined to the first when the two are halves of one pair. `left` counts
the characters from the `u` on. -/
def unicodeEscape (cs : Text) : Except Fault (CodePoint × Text) :=
  match cs with
  | a :: b :: c :: d :: e :: rest =>
    match hex4? a b c d with
    | none => .error (.lack .unicodeEscape (cs.length + 1))
    | some high =>
      if isHighSurrogate high then
        -- Only a low half that follows at once makes a pair.
        match e :: rest with
        | .scalar '\\' :: .scalar 'u' :: a' :: b' :: c' :: d' :: e' :: rest' =>
          match hex4? a' b' c' d' with
          | none => .error (.lack .unicodeEscape (rest'.length + 6))
          | some low =>
            if isLowSurrogate low then
              .ok (named (joinSurrogates high low), e' :: rest')
            else
              .ok (named high, e :: rest)
        | _ => .ok (named high, e :: rest)
      else
        .ok (named high, e :: rest)
  | _ => .error (.lack .unicodeEscape (cs.length + 1))

/-- An escape by number takes a character at least. -/
theorem unicodeEscape_length {cs rest : Text} {p : CodePoint}
    (h : unicodeEscape cs = .ok (p, rest)) : rest.length < cs.length := by
  unfold unicodeEscape at h
  split at h
  · split at h
    · simp at h
    · split at h
      · split at h
        · split at h
          · simp at h
          · split at h
            · rename_i heq _ _ _ _
              simp only [Except.ok.injEq, Prod.mk.injEq] at h
              have := congrArg List.length heq
              simp only [List.length_cons] at this
              simp only [← h.2, List.length_cons]
              omega
            · simp only [Except.ok.injEq, Prod.mk.injEq] at h
              simp only [← h.2, List.length_cons]
              omega
        · simp only [Except.ok.injEq, Prod.mk.injEq] at h
          simp only [← h.2, List.length_cons]
          omega
      · simp only [Except.ok.injEq, Prod.mk.injEq] at h
        simp only [← h.2, List.length_cons]
        omega
  · simp at h

/-- The rest of a string, after the code points read before, latest
first, and what is left. `n` counts the characters from after the opening
quote on. -/
def stringFrom (n : Nat) (seen cs : Text) : Except Fault (Text × Text) :=
  match cs with
  | [] => .error (.lack .stringEnd (n + 1))
  | .scalar '"' :: rest => .ok (seen.reverse, rest)
  | [.scalar '\\'] => .error (.lack .stringEnd (n + 1))
  | .scalar '\\' :: .scalar 'u' :: rest =>
    match _h : unicodeEscape rest with
    | .error f => .error f
    | .ok (p, rest') =>
      stringFrom n (p :: seen) rest'
  | .scalar '\\' :: c :: rest =>
    match shortEscape? c with
    | none => .error (.lack .escape (rest.length + 2))
    | some e => stringFrom n (.scalar e :: seen) rest
  | c :: rest =>
    if c.value < 0x20 then
      .error (.lack .controlCharacter (rest.length + 1))
    else
      stringFrom n (c :: seen) rest
termination_by cs.length
decreasing_by
  · exact Nat.lt_trans (unicodeEscape_length ‹_›) (Nat.lt_succ_of_lt (Nat.lt_succ_self _))
  · exact Nat.lt_succ_of_lt (Nat.lt_succ_self _)
  · exact Nat.lt_succ_self _

/-- A string takes a character at least: the quote that ends it. -/
theorem stringFrom_length {n : Nat} {seen t cs r : Text}
    (h : stringFrom n seen cs = .ok (t, r)) : r.length < cs.length := by
  fun_induction stringFrom n seen cs with
  | case1 => simp at h
  | case2 =>
    simp only [Except.ok.injEq, Prod.mk.injEq] at h
    rw [← h.2]
    exact Nat.lt_succ_self _
  | case3 => simp at h
  | case4 => simp at h
  | case5 seen rest p rest' hescape ih =>
    have := ih h
    have := unicodeEscape_length hescape
    simp only [List.length_cons]
    omega
  | case6 => simp at h
  | case7 =>
    rename_i ih
    have := ih h
    simp only [List.length_cons]
    omega
  | case8 => simp at h
  | case9 =>
    rename_i ih
    have := ih h
    simp only [List.length_cons]
    omega

/-- The rest of a number after its integer digits: the characters of a
fraction and of an exponent, and what is left. Either is taken only when
it is complete. -/
def fraction (cs : Text) : Text × Text :=
  match cs with
  | .scalar '.' :: d :: rest =>
    if d.isDigit then
      (.scalar '.' :: (d :: rest).takeWhile CodePoint.isDigit,
        (d :: rest).dropWhile CodePoint.isDigit)
    else ([], cs)
  | _ => ([], cs)

/-- The exponent at the front of a text, when it is complete. -/
def exponent (cs : Text) : Text × Text :=
  match cs with
  | e :: rest =>
    if e == .scalar 'e' || e == .scalar 'E' then
      let (sign, rest) := match rest with
        | s :: rest' =>
          if s == CodePoint.scalar '+' || s == CodePoint.scalar '-' then ([s], rest')
          else ([], rest)
        | [] => ([], rest)
      let digits := rest.takeWhile CodePoint.isDigit
      if digits.isEmpty then ([], cs)
      else (e :: sign ++ digits, rest.dropWhile CodePoint.isDigit)
    else
      ([], cs)
  | [] => ([], cs)

/-- The digits of an integer at the front of a text: a zero alone, or
digits that start with another. -/
def wholeDigits (cs : Text) : Text × Text :=
  match cs with
  | .scalar '0' :: rest => ([.scalar '0'], rest)
  | _ => (cs.takeWhile CodePoint.isDigit, cs.dropWhile CodePoint.isDigit)

/-- What a fraction leaves is no longer than the text. -/
theorem fraction_length_le (cs : Text) : (fraction cs).2.length ≤ cs.length := by
  unfold fraction
  split
  · rename_i d rest
    split
    · have := length_dropWhile_le CodePoint.isDigit (d :: rest)
      simp only [List.length_cons] at *
      omega
    · simp
  · simp

/-- What an exponent leaves is no longer than the text. -/
theorem exponent_length_le (cs : Text) : (exponent cs).2.length ≤ cs.length := by
  unfold exponent
  split
  · rename_i e rest
    split
    · split
      rename_i sign tail heq
      have htail : tail.length ≤ rest.length := by
        split at heq
        · rename_i s rest'
          split at heq <;> simp only [Prod.mk.injEq] at heq <;> simp [← heq.2]
        · simp only [Prod.mk.injEq] at heq
          exact Nat.le_of_eq (congrArg List.length heq.2.symm)
      simp only
      split
      · simp
      · have := length_dropWhile_le CodePoint.isDigit tail
        simp only [List.length_cons]
        omega
    · simp
  · simp

/-- An integer that is there takes a digit at least. -/
theorem wholeDigits_length_lt {cs : Text} (h : (wholeDigits cs).1 ≠ []) :
    (wholeDigits cs).2.length < cs.length := by
  unfold wholeDigits at *
  split at h
  · simp
  · have hsum := congrArg List.length
      (List.takeWhile_append_dropWhile (p := CodePoint.isDigit) (l := cs))
    rw [List.length_append] at hsum
    have : 0 < (cs.takeWhile CodePoint.isDigit).length := List.length_pos_iff.2 h
    simp only
    omega

/-- A number at the front of a text. -/
def number (cs : Text) : Except Fault (Json × Left cs.length) :=
  let negative := cs.head? == some (.scalar '-')
  let body := if negative then cs.drop 1 else cs
  have hbody : body.length ≤ cs.length := by
    simp only [body]
    split <;> simp
  if h : (wholeDigits body).1 = [] then
    .error (.lack .value cs.length)
  else
    let digits := (wholeDigits body).1
    let rest := (wholeDigits body).2
    let places := fraction rest
    let power := exponent places.2
    have hlt : power.2.length < cs.length := by
      have h1 := wholeDigits_length_lt h
      have h2 := fraction_length_le rest
      have h3 := exponent_length_le places.2
      simp only [rest, places, power] at *
      omega
    -- Without a fraction and an exponent the number is an integer, however long.
    if places.1.isEmpty && power.1.isEmpty then
      if Number.digitLimit < digits.length then
        .error (.longInteger digits.length)
      else
        let n : Int := Number.decimalValue digits.chars
        .ok (.int (if negative then -n else n), ⟨power.2, hlt⟩)
    else
      match Number.unsignedReal? negative (digits ++ places.1 ++ power.1).chars with
      | some x => .ok (.real x, ⟨power.2, hlt⟩)
      | none => .error (.lack .value cs.length)

/-- A literal word at the front of a text. -/
def word? (w : Text) (v : Json) (cs : Text) : Option (Json × Left cs.length) :=
  if h : w.isPrefixOf cs ∧ w ≠ [] then
    some (v, ⟨cs.drop w.length, by
      have hle := (List.isPrefixOf_iff_prefix.1 h.1).length_le
      have : 0 < w.length := List.length_pos_iff.2 h.2
      simp only [List.length_drop]
      omega⟩)
  else
    none

/-- A value that is neither string, array nor object. -/
def simple (cs : Text) : Except Fault (Json × Left cs.length) :=
  let found := word? (Text.ofString "null") .null cs
    <|> word? (Text.ofString "true") (.bool true) cs
    <|> word? (Text.ofString "false") (.bool false) cs
    <|> word? (Text.ofString "NaN") (.real (0.0 / 0.0)) cs
    <|> word? (Text.ofString "Infinity") (.real (1.0 / 0.0)) cs
    <|> word? (Text.ofString "-Infinity") (.real (-1.0 / 0.0)) cs
  match found with
  | some r => .ok r
  | none => number cs

mutual

/-- The value at the front of a text, inside at most `depth` more
containers. -/
def value (depth : Nat) (cs : Text) : Except Fault (Json × Left cs.length) :=
  match cs with
  | [] => .error (.lack .value 0)
  | .scalar '"' :: rest =>
    match h : stringFrom rest.length [] rest with
    | .error f => .error f
    | .ok (t, r) => .ok (.text t, ⟨r, Nat.lt_succ_of_lt (stringFrom_length h)⟩)
  | .scalar '[' :: rest =>
    match depth with
    | 0 => .error (.nesting .array)
    | depth + 1 =>
      match h : skipBlanks rest with
      | [] => .error (.lack .value 0)
      | c :: tail =>
        have hlt := length_lt_of_skipBlanks h
        if c == .scalar ']' then
          .ok (.array [], ⟨tail, by simp only [List.length_cons]; omega⟩)
        else
          match elements depth (tail.length + 1) [] (c :: tail) (Nat.le_refl _) with
          | .error f => .error f
          | .ok (items, ⟨r, hr⟩) =>
            .ok (.array items, ⟨r, by simp only [List.length_cons]; omega⟩)
  | .scalar '{' :: rest =>
    match depth with
    | 0 => .error (.nesting .object)
    | depth + 1 =>
      match h : skipBlanks rest with
      | [] => .error (.lack .propertyName 0)
      | c :: tail =>
        have hlt := length_lt_of_skipBlanks h
        if c == .scalar '}' then
          .ok (.object [], ⟨tail, by simp only [List.length_cons]; omega⟩)
        else
          match members depth (tail.length + 1) [] (c :: tail) (Nat.le_refl _) with
          | .error f => .error f
          | .ok (found, ⟨r, hr⟩) =>
            .ok (.object found, ⟨r, by simp only [List.length_cons]; omega⟩)
  | c :: rest => simple (c :: rest)
termination_by (cs.length, 0)

/-- The rest of an array, after the elements read before, latest first. -/
def elements (depth n : Nat) (seen : List Json) (cs : Text) (hn : cs.length ≤ n) :
    Except Fault (List Json × Left n) :=
  match value depth cs with
  | .error f => .error f
  | .ok (v, ⟨r, hr⟩) =>
    match h : skipBlanks r with
    | [] => .error (.lack .comma 0)
    | c :: rest =>
      have hlt := length_lt_of_skipBlanks h
      if c == .scalar ']' then
        .ok ((v :: seen).reverse, ⟨rest, by omega⟩)
      else if c == .scalar ',' then
        have hskip := skipBlanks_length_le rest
        elements depth n (v :: seen) (skipBlanks rest) (by omega)
      else
        .error (.lack .comma (rest.length + 1))
termination_by (cs.length, 1)

/-- The rest of an object, after the members read before, latest first. -/
def members (depth n : Nat) (seen : List (Text × Json)) (cs : Text)
    (hn : cs.length ≤ n) : Except Fault (List (Text × Json) × Left n) :=
  match cs with
  | [] => .error (.lack .propertyName 0)
  | first :: start =>
    if first == .scalar '"' then
      match hr : stringFrom start.length [] start with
      | .error f => .error f
      | .ok (name, r) =>
        have hr := stringFrom_length hr
        match h : skipBlanks r with
        | [] => .error (.lack .colon 0)
        | c :: rest =>
          have hlt := length_lt_of_skipBlanks h
          if c == .scalar ':' then
            have hskip := skipBlanks_length_le rest
            match value depth (skipBlanks rest) with
            | .error f => .error f
            | .ok (v, ⟨r', hr'⟩) =>
              match h' : skipBlanks r' with
              | [] => .error (.lack .comma 0)
              | c :: rest' =>
                have hlt' := length_lt_of_skipBlanks h'
                have hn' : start.length + 1 ≤ n := hn
                if c == .scalar '}' then
                  .ok (((name, v) :: seen).reverse, ⟨rest', by omega⟩)
                else if c == .scalar ',' then
                  have hskip' := skipBlanks_length_le rest'
                  members depth n ((name, v) :: seen) (skipBlanks rest') (by omega)
                else
                  .error (.lack .comma (rest'.length + 1))
          else
            .error (.lack .colon (rest.length + 1))
    else
      .error (.lack .propertyName (start.length + 1))
termination_by (cs.length, 0)

end

/-- The JSON value a text is, with blanks around it. -/
def read [Bounds] (text : Text) : Except Fault Json :=
  if text.head? == some (.scalar '\ufeff') then
    .error (.lack .byteOrderMark text.length)
  else
    match value Bounds.brackets (skipBlanks text) with
    | .error f => .error f
    | .ok (v, r) =>
      match skipBlanks r.1 with
      | [] => .ok v
      | rest => .error (.lack .extraData rest.length)

end DeliveryAudit.Json
