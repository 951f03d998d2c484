import DeliveryAudit.Proofs.Text.CodePoint
import DeliveryAudit.Text.Utf8
/-!
# Text in UTF-8 and back

A character takes one to four bytes, and one step of decoding takes just
these bytes and gives the character (`step_encodeChar`). So decoding
undoes encoding (`decode_encode`).
-/

namespace DeliveryAudit.Utf8

variable {lead x y z : UInt8} {c : Char} {n : Nat} (rest : List UInt8)

/-- The bytes of a character, by its number. -/
theorem encodeChar_eq (c : Char) : encodeChar c =
    if c.toNat ≤ 0x7F then [UInt8.ofNat c.toNat]
    else if c.toNat ≤ 0x7FF then
      [UInt8.ofNat (c.toNat / 64 % 32 + 0xC0), UInt8.ofNat (c.toNat % 64 + 0x80)]
    else if c.toNat ≤ 0xFFFF then
      [UInt8.ofNat (c.toNat / 4096 % 16 + 0xE0), UInt8.ofNat (c.toNat / 64 % 64 + 0x80),
        UInt8.ofNat (c.toNat % 64 + 0x80)]
    else
      [UInt8.ofNat (c.toNat / 262144 % 8 + 0xF0), UInt8.ofNat (c.toNat / 4096 % 64 + 0x80),
        UInt8.ofNat (c.toNat / 64 % 64 + 0x80), UInt8.ofNat (c.toNat % 64 + 0x80)] :=
  rfl

/-- A continuation byte carries six bits. -/
theorem isContinuation_of_toNat_eq (h : x.toNat = n % 64 + 0x80) :
    isContinuation x = true ∧ payload x = n % 64 := by
  refine ⟨?_, ?_⟩
  · simp only [isContinuation, Bool.and_eq_true, decide_eq_true_eq, UInt8.le_iff_toNat_le, h,
      UInt8.reduceToNat]
    omega
  · rw [payload, h]
    omega

theorem step_one (hlead : lead.toNat = c.toNat) (h : c.toNat < 0x80) :
    step lead rest = .char c 1 := by
  have h1 : lead < 0x80 := by
    rw [UInt8.lt_iff_toNat_lt, hlead]
    exact h
  rw [step.eq_def, if_pos h1, hlead, Char.ofNat_toNat]

theorem step_two (hlead : lead.toNat = c.toNat / 64 + 0xC0) (hx : x.toNat = c.toNat % 64 + 0x80)
    (h : 0x80 ≤ c.toNat) (h' : c.toNat < 0x800) : step lead (x :: rest) = .char c 2 := by
  have h1 : ¬ lead < 0x80 ∧ ¬ lead < 0xC2 ∧ lead < 0xE0 := by
    simp only [UInt8.lt_iff_toNat_lt, hlead, UInt8.reduceToNat]
    omega
  obtain ⟨hcont, hpayload⟩ := isContinuation_of_toNat_eq hx
  have hvalue : lead.toNat % 32 * 64 + payload x = c.toNat := by
    rw [hlead, hpayload]
    omega
  rw [step.eq_def, if_neg h1.1, if_neg h1.2.1, if_pos h1.2.2]
  simp only [hcont, hvalue, if_true, Char.ofNat_toNat]

/-- The second byte of three excludes surrogates and what two bytes are
enough for. -/
theorem secondOfThree_of_toNat_eq (hlead : lead.toNat = c.toNat / 4096 + 0xE0)
    (hx : x.toNat = c.toNat / 64 % 64 + 0x80) (h : 0x800 ≤ c.toNat) (h' : c.toNat < 0x10000) :
    secondOfThree lead x = true := by
  have hvalid := toNat_char c
  have hE0 : lead = 0xE0 ↔ c.toNat / 4096 = 0 := by
    simp only [← UInt8.toNat_inj, hlead, UInt8.reduceToNat]
    omega
  have hED : lead = 0xED ↔ c.toNat / 4096 = 13 := by
    simp only [← UInt8.toNat_inj, hlead, UInt8.reduceToNat]
    omega
  simp only [secondOfThree, Bool.and_eq_true, decide_eq_true_eq, beq_iff_eq, hE0, hED,
    UInt8.le_iff_toNat_le, hx]
  constructor
  · split
    · simp only [UInt8.reduceToNat]; omega
    · simp only [UInt8.reduceToNat]; omega
  · split
    · simp only [UInt8.reduceToNat]; omega
    · simp only [UInt8.reduceToNat]; omega

theorem step_three (hlead : lead.toNat = c.toNat / 4096 + 0xE0)
    (hx : x.toNat = c.toNat / 64 % 64 + 0x80) (hy : y.toNat = c.toNat % 64 + 0x80)
    (h : 0x800 ≤ c.toNat) (h' : c.toNat < 0x10000) : step lead (x :: y :: rest) = .char c 3 := by
  have h1 : ¬ lead < 0x80 ∧ ¬ lead < 0xC2 ∧ ¬ lead < 0xE0 ∧ lead < 0xF0 := by
    simp only [UInt8.lt_iff_toNat_lt, hlead, UInt8.reduceToNat]
    omega
  obtain ⟨-, hpayload⟩ := isContinuation_of_toNat_eq hx
  obtain ⟨hcont, hpayload'⟩ := isContinuation_of_toNat_eq hy
  have hvalue : (lead.toNat % 16 * 64 + payload x) * 64 + payload y = c.toNat := by
    rw [hlead, hpayload, hpayload']
    omega
  rw [step.eq_def, if_neg h1.1, if_neg h1.2.1, if_neg h1.2.2.1, if_pos h1.2.2.2]
  simp only [secondOfThree_of_toNat_eq hlead hx h h', hcont, hvalue, if_true, Char.ofNat_toNat,
    Bool.not_true, Bool.false_eq_true, if_false]

/-- The second byte of four excludes what three bytes are enough for and
what is no scalar value. -/
theorem secondOfFour_of_toNat_eq (hlead : lead.toNat = c.toNat / 262144 + 0xF0)
    (hx : x.toNat = c.toNat / 4096 % 64 + 0x80) (h : 0x10000 ≤ c.toNat) (h' : c.toNat < 0x110000) :
    secondOfFour lead x = true := by
  have hF0 : lead = 0xF0 ↔ c.toNat / 262144 = 0 := by
    simp only [← UInt8.toNat_inj, hlead, UInt8.reduceToNat]
    omega
  have hF4 : lead = 0xF4 ↔ c.toNat / 262144 = 4 := by
    simp only [← UInt8.toNat_inj, hlead, UInt8.reduceToNat]
    omega
  simp only [secondOfFour, Bool.and_eq_true, decide_eq_true_eq, beq_iff_eq, hF0, hF4,
    UInt8.le_iff_toNat_le, hx]
  constructor
  · split
    · simp only [UInt8.reduceToNat]; omega
    · simp only [UInt8.reduceToNat]; omega
  · split
    · simp only [UInt8.reduceToNat]; omega
    · simp only [UInt8.reduceToNat]; omega

theorem step_four (hlead : lead.toNat = c.toNat / 262144 + 0xF0)
    (hx : x.toNat = c.toNat / 4096 % 64 + 0x80) (hy : y.toNat = c.toNat / 64 % 64 + 0x80)
    (hz : z.toNat = c.toNat % 64 + 0x80) (h : 0x10000 ≤ c.toNat) (h' : c.toNat < 0x110000) :
    step lead (x :: y :: z :: rest) = .char c 4 := by
  have h1 : ¬ lead < 0x80 ∧ ¬ lead < 0xC2 ∧ ¬ lead < 0xE0 ∧ ¬ lead < 0xF0 ∧ lead < 0xF5 := by
    simp only [UInt8.lt_iff_toNat_lt, hlead, UInt8.reduceToNat]
    omega
  obtain ⟨-, hpayload⟩ := isContinuation_of_toNat_eq hx
  obtain ⟨hcont, hpayload'⟩ := isContinuation_of_toNat_eq hy
  obtain ⟨hcont', hpayload''⟩ := isContinuation_of_toNat_eq hz
  have hvalue :
      ((lead.toNat % 8 * 64 + payload x) * 64 + payload y) * 64 + payload z = c.toNat := by
    rw [hlead, hpayload, hpayload', hpayload'']
    omega
  rw [step.eq_def, if_neg h1.1, if_neg h1.2.1, if_neg h1.2.2.1, if_neg h1.2.2.2.1,
    if_pos h1.2.2.2.2]
  simp only [secondOfFour_of_toNat_eq hlead hx h h', hcont, hcont', hvalue, if_true,
    Char.ofNat_toNat, Bool.not_true, Bool.false_eq_true, if_false]

/-- **One step of decoding takes the bytes of one character.** -/
theorem step_encodeChar (c : Char) : ∃ lead more, encodeChar c = lead :: more ∧
    ∀ rest, step lead (more ++ rest) = .char c (more.length + 1) := by
  have hof : ∀ {n}, n < 256 → (UInt8.ofNat n).toNat = n := fun hn => by simp [Nat.mod_eq_of_lt hn]
  have hvalid := toNat_char c
  have hbyte : ∀ n, (UInt8.ofNat (n % 64 + 0x80)).toNat = n % 64 + 0x80 := fun n => hof (by omega)
  have hencode := encodeChar_eq c
  by_cases h1 : c.toNat ≤ 0x7F
  · rw [if_pos h1] at hencode
    exact ⟨_, [], hencode, fun rest => step_one rest (hof (by omega)) (by omega)⟩
  · by_cases h2 : c.toNat ≤ 0x7FF
    · rw [if_neg h1, if_pos h2, Nat.mod_eq_of_lt (a := c.toNat / 64) (by omega)] at hencode
      exact ⟨_, [_], hencode, fun rest =>
        step_two rest (hof (by omega)) (hbyte _) (by omega) (by omega)⟩
    · by_cases h3 : c.toNat ≤ 0xFFFF
      · rw [if_neg h1, if_neg h2, if_pos h3, Nat.mod_eq_of_lt (a := c.toNat / 4096) (by omega)]
          at hencode
        exact ⟨_, [_, _], hencode, fun rest =>
          step_three rest (hof (by omega)) (hbyte _) (hbyte _) (by omega) (by omega)⟩
      · rw [if_neg h1, if_neg h2, if_neg h3, Nat.mod_eq_of_lt (a := c.toNat / 262144) (by omega)]
          at hencode
        exact ⟨_, [_, _, _], hencode, fun rest =>
          step_four rest (hof (by omega)) (hbyte _) (hbyte _) (hbyte _) (by omega) (by omega)⟩

/-- A text is decoded whatever comes after it. -/
theorem decodeFrom_encode_append (cs : List Char) (position : Nat) (seen : List Char) :
    decodeFrom position seen (encode cs ++ rest) =
      decodeFrom (position + (encode cs).length) (cs.reverse ++ seen) rest := by
  induction cs generalizing position seen with
  | nil => rfl
  | cons c cs ih =>
    obtain ⟨lead, more, hchar, hstep⟩ := step_encodeChar c
    rw [encode, List.flatMap_cons, ← encode, List.append_assoc, hchar, List.cons_append, decodeFrom,
      hstep]
    simp only [Nat.add_sub_cancel, List.drop_left]
    rw [ih, List.reverse_cons, List.append_assoc, List.length_append, List.length_cons,
      Nat.add_assoc]
    rfl

theorem decodeFrom_encode (cs : List Char) (position : Nat) (seen : List Char) :
    decodeFrom position seen (encode cs) = (seen.reverse ++ cs, none) := by
  rw [← List.append_nil (encode cs), decodeFrom_encode_append, decodeFrom, List.reverse_append,
    List.reverse_reverse]

/-- **Decoding undoes encoding.** -/
theorem decode_encode (cs : List Char) : decode (encode cs) = .ok cs := by
  rw [decode, decodeUntil, decodeFrom_encode]
  rfl

end DeliveryAudit.Utf8
