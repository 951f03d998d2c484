import DeliveryAudit.Proofs.Json.Spelling
/-!
# Writing JSON strings

How a producer writes a text inside a JSON string with ASCII characters
only: a quote and a backslash and the usual control characters by short
escapes, and every other character that is not printable by its number,
in lower-case digits.
-/

namespace DeliveryAudit.Json

/-- A number below `0x10000` in four hexadecimal digits. -/
def hex4 (n : Nat) : List Char :=
  [Nat.digitChar (n / 4096 % 16), Nat.digitChar (n / 256 % 16), Nat.digitChar (n / 16 % 16),
    Nat.digitChar (n % 16)]

/-- The escape of a number below `0x10000`. -/
def escape (n : Nat) : List Char := '\\' :: 'u' :: hex4 n

/-- A character as it is written inside a string. -/
def writeChar (c : Char) : List Char :=
  match c with
  | '"' => ['\\', '"']
  | '\\' => ['\\', '\\']
  | '\x08' => ['\\', 'b']
  | '\x0c' => ['\\', 'f']
  | '\n' => ['\\', 'n']
  | '\r' => ['\\', 'r']
  | '\t' => ['\\', 't']
  | c =>
    if 0x20 ≤ c.toNat ∧ c.toNat ≤ 0x7E then [c]
    else if c.toNat < 0x10000 then escape c.toNat
    else
      escape (0xD800 + (c.toNat - 0x10000) / 1024) ++ escape (0xDC00 + (c.toNat - 0x10000) % 1024)

/-- A text as it is written inside a string. -/
def write (cs : List Char) : List Char := cs.flatMap writeChar

theorem hexDigit?_digitChar : ∀ d < 16, hexDigit? (.scalar (Nat.digitChar d)) = some d := by
  decide

theorem hex4?_hex4 {n : Nat} (h : n < 0x10000) :
    hex4? (.scalar (Nat.digitChar (n / 4096 % 16))) (.scalar (Nat.digitChar (n / 256 % 16)))
      (.scalar (Nat.digitChar (n / 16 % 16))) (.scalar (Nat.digitChar (n % 16))) = some n := by
  have hdigit : ∀ m, hexDigit? (.scalar (Nat.digitChar (m % 16))) = some (m % 16) :=
    fun m => hexDigit?_digitChar _ (Nat.mod_lt _ (by decide))
  simp only [hex4?, hdigit, Option.bind_eq_bind, Option.bind_some]
  congr 1
  omega

theorem spellsChar_surrogates {c : Char} {high low : Nat} (hhigh : isHighSurrogate high = true)
    (hlow : isLowSurrogate low = true) (hjoin : joinSurrogates high low = c.toNat) :
    SpellsChar c (escape high ++ escape low) := by
  have hh : high < 0x10000 := by
    simp [isHighSurrogate] at hhigh
    omega
  have hl : low < 0x10000 := by
    simp [isLowSurrogate] at hlow
    omega
  exact .pair (hex4?_hex4 hh) (hex4?_hex4 hl) hhigh hlow hjoin

/-- A written character is spelled. -/
theorem spellsChar_writeChar (c : Char) : SpellsChar c (writeChar c) := by
  unfold writeChar
  split
  · exact .short rfl
  · exact .short rfl
  · exact .short rfl
  · exact .short rfl
  · exact .short rfl
  · exact .short rfl
  · exact .short rfl
  · rename_i hquote hslash _ _ _ _ _
    have hvalid := toNat_char c
    split
    · exact .raw hquote hslash (by omega)
    · split
      · exact .number (hex4?_hex4 (by omega))
      · generalize hhigh : 0xD800 + (c.toNat - 0x10000) / 1024 = high
        generalize hlow : 0xDC00 + (c.toNat - 0x10000) % 1024 = low
        have hhigh' : isHighSurrogate high = true := by
          simp only [isHighSurrogate, Bool.and_eq_true, decide_eq_true_eq]
          omega
        have hlow' : isLowSurrogate low = true := by
          simp only [isLowSurrogate, Bool.and_eq_true, decide_eq_true_eq]
          omega
        have hjoin : joinSurrogates high low = c.toNat := by
          unfold joinSurrogates
          omega
        exact spellsChar_surrogates hhigh' hlow' hjoin

/-- **A written text is spelled.** -/
theorem spells_write (cs : List Char) : Spells cs (write cs) := by
  induction cs with
  | nil => exact .nil
  | cons c cs ih => exact .cons (spellsChar_writeChar c) ih

example : String.ofList (write "a\"\n\u2603😀".toList) =
    "a\\\"\\n\\u2603\\ud83d\\ude00" := by decide

end DeliveryAudit.Json
