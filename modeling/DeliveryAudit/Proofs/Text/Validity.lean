import DeliveryAudit.Proofs.Text.Utf8
/-!
# Bytes that are text

A character is decoded from its own bytes only (`step_eq_char`), so that a
byte string is decoded to a text just if it is this text in UTF-8
(`decode_eq_ok_iff`). The byte of a newline is part of no other character
(`newline_mem_encodeChar`), and cutting at newlines may come before or after
decoding (`splitOn_encode`).
-/

namespace DeliveryAudit.Utf8

variable {lead x y z : UInt8} {c : Char} {n size : Nat} {rest bs a b : List UInt8}
variable {cs : List Char}

/-! ## One character -/

/-- The number of the character that a number names. -/
theorem toNat_ofNat (h : n < 0xD800 ∨ 0xDFFF < n ∧ n < 0x110000) : (Char.ofNat n).toNat = n := by
  have hvalid : n.isValidChar := h
  have hchar : Char.ofNat n = Char.ofNatAux n hvalid := dif_pos hvalid
  rw [hchar]
  rfl

theorem toNat_of_isContinuation (h : isContinuation x = true) :
    x.toNat = payload x + 0x80 ∧ payload x < 64 := by
  simp only [isContinuation, Bool.and_eq_true, decide_eq_true_eq, UInt8.le_iff_toNat_le,
    UInt8.reduceToNat] at h
  rw [payload]
  omega

theorem encodeChar_one (h : lead.toNat < 0x80) : encodeChar (Char.ofNat lead.toNat) = [lead] := by
  rw [encodeChar_eq, toNat_ofNat (by omega), if_pos (by omega), UInt8.ofNat_toNat]

theorem encodeChar_two (hlead : 0xC2 ≤ lead.toNat) (hlead' : lead.toNat < 0xE0)
    (hx : isContinuation x = true) :
    encodeChar (Char.ofNat (lead.toNat % 32 * 64 + payload x)) = [lead, x] := by
  obtain ⟨hx, hlt⟩ := toNat_of_isContinuation hx
  generalize hn : lead.toNat % 32 * 64 + payload x = n
  rw [encodeChar_eq, toNat_ofNat (by omega), if_neg (by omega), if_pos (by omega),
    show n / 64 % 32 + 0xC0 = lead.toNat by omega, show n % 64 + 0x80 = x.toNat by omega,
    UInt8.ofNat_toNat, UInt8.ofNat_toNat]

/-- A second byte carries six bits, too. It is in a smaller range after the
first and the last lead. -/
theorem toNat_of_second {first last lo hi : UInt8} (hlo : 0x80 ≤ lo.toNat) (hhi : hi.toNat ≤ 0xBF)
    (h : ((if lead == first then lo else 0x80) ≤ x &&
      x ≤ (if lead == last then hi else 0xBF)) = true) :
    (x.toNat = payload x + 0x80 ∧ payload x < 64) ∧
      (lead.toNat = first.toNat → lo.toNat ≤ x.toNat) ∧
      (lead.toNat = last.toNat → x.toNat ≤ hi.toNat) := by
  simp only [Bool.and_eq_true, decide_eq_true_eq, beq_iff_eq, ← UInt8.toNat_inj,
    UInt8.le_iff_toNat_le, apply_ite UInt8.toNat, UInt8.reduceToNat] at h
  rw [payload]
  split at h
  · split at h
    · omega
    · omega
  · split at h
    · omega
    · omega

theorem encodeChar_three (hlead : 0xE0 ≤ lead.toNat) (hlead' : lead.toNat < 0xF0)
    (hx : secondOfThree lead x = true) (hy : isContinuation y = true) :
    encodeChar (Char.ofNat ((lead.toNat % 16 * 64 + payload x) * 64 + payload y)) =
      [lead, x, y] := by
  obtain ⟨⟨hx, hlt⟩, hE0, hED⟩ := toNat_of_second (by decide) (by decide) hx
  simp only [UInt8.reduceToNat] at hE0 hED
  obtain ⟨hy, hlt'⟩ := toNat_of_isContinuation hy
  generalize hn : (lead.toNat % 16 * 64 + payload x) * 64 + payload y = n
  rw [encodeChar_eq, toNat_ofNat (by omega), if_neg (by omega), if_neg (by omega),
    if_pos (by omega), show n / 4096 % 16 + 0xE0 = lead.toNat by omega,
    show n / 64 % 64 + 0x80 = x.toNat by omega, show n % 64 + 0x80 = y.toNat by omega,
    UInt8.ofNat_toNat, UInt8.ofNat_toNat, UInt8.ofNat_toNat]

theorem encodeChar_four (hlead : 0xF0 ≤ lead.toNat) (hlead' : lead.toNat < 0xF5)
    (hx : secondOfFour lead x = true) (hy : isContinuation y = true)
    (hz : isContinuation z = true) :
    encodeChar (Char.ofNat
      (((lead.toNat % 8 * 64 + payload x) * 64 + payload y) * 64 + payload z)) =
      [lead, x, y, z] := by
  obtain ⟨⟨hx, hlt⟩, hF0, hF4⟩ := toNat_of_second (by decide) (by decide) hx
  simp only [UInt8.reduceToNat] at hF0 hF4
  obtain ⟨hy, hlt'⟩ := toNat_of_isContinuation hy
  obtain ⟨hz, hlt''⟩ := toNat_of_isContinuation hz
  generalize hn : ((lead.toNat % 8 * 64 + payload x) * 64 + payload y) * 64 + payload z = n
  rw [encodeChar_eq, toNat_ofNat (by omega), if_neg (by omega), if_neg (by omega),
    if_neg (by omega), show n / 262144 % 8 + 0xF0 = lead.toNat by omega,
    show n / 4096 % 64 + 0x80 = x.toNat by omega, show n / 64 % 64 + 0x80 = y.toNat by omega,
    show n % 64 + 0x80 = z.toNat by omega,
    UInt8.ofNat_toNat, UInt8.ofNat_toNat, UInt8.ofNat_toNat, UInt8.ofNat_toNat]

/-- **A character is decoded from its own bytes.** -/
theorem step_eq_char (h : step lead rest = .char c size) :
    ∃ more after, rest = more ++ after ∧ encodeChar c = lead :: more ∧ size = more.length + 1 := by
  revert h
  -- In all but four cases the bytes cannot be decoded.
  fun_cases step lead rest with
  | case1 rest h1 =>
    rintro ⟨⟩
    exact ⟨[], rest, rfl, encodeChar_one (UInt8.lt_iff_toNat_lt.1 h1), rfl⟩
  | case4 h1 h2 h3 x rest hx =>
    rintro ⟨⟩
    exact ⟨[x], rest, rfl, encodeChar_two (UInt8.not_lt.1 h2) (UInt8.lt_iff_toNat_lt.1 h3) hx, rfl⟩
  | case9 h1 h2 h3 h4 x hx y rest hy =>
    rintro ⟨⟩
    rw [Bool.not_eq_true', Bool.not_eq_false] at hx
    exact ⟨[x, y], rest, rfl,
      encodeChar_three (UInt8.not_lt.1 h3) (UInt8.lt_iff_toNat_lt.1 h4) hx hy, rfl⟩
  | case16 h1 h2 h3 h4 h5 x hx y hy z rest hz =>
    rintro ⟨⟩
    rw [Bool.not_eq_true', Bool.not_eq_false] at hx hy
    exact ⟨[x, y, z], rest, rfl,
      encodeChar_four (UInt8.not_lt.1 h4) (UInt8.lt_iff_toNat_lt.1 h5) hx hy hz, rfl⟩
  | _ => exact nofun

/-! ## Texts -/

/-- Bytes that are decoded to their end are the characters in UTF-8. -/
theorem eq_encode_of_decodeFrom {position : Nat} {seen : List Char}
    (h : decodeFrom position seen bs = (cs, none)) : ∃ ds, cs = seen.reverse ++ ds ∧
      bs = encode ds := by
  fun_induction decodeFrom position seen bs with
  | case1 position seen =>
    cases h
    exact ⟨[], (List.append_nil _).symm, rfl⟩
  | case2 position seen lead rest c size hstep ih =>
    obtain ⟨more, after, rfl, hchar, rfl⟩ := step_eq_char hstep
    rw [Nat.add_sub_cancel, List.drop_left] at ih h
    obtain ⟨ds, rfl, rfl⟩ := ih h
    refine ⟨c :: ds, by rw [List.reverse_cons, List.append_assoc]; rfl, ?_⟩
    rw [encode, encode, List.flatMap_cons, hchar, List.cons_append]
  | case3 position seen lead rest count reason hstep => cases h

/-- **Bytes are decoded to a text** just if they are this text in UTF-8. -/
theorem decode_eq_ok_iff : decode bs = .ok cs ↔ bs = encode cs := by
  refine ⟨fun h => ?_, fun h => h ▸ decode_encode cs⟩
  rw [decode, decodeUntil] at h
  split at h
  · next ds hdecode =>
    obtain ⟨es, rfl, rfl⟩ := eq_encode_of_decodeFrom hdecode
    cases h
    rfl
  · cases h

/-- **Decoding stops behind a text**, at bytes that no step can decode. -/
theorem eq_append_of_decodeFrom {position : Nat} {seen : List Char} {f : Fault}
    (h : decodeFrom position seen bs = (cs, some f)) : ∃ ds rest, bs = encode ds ++ f.lead :: rest ∧
      f.first = position + (encode ds).length ∧ step f.lead rest = .bad f.count f.reason := by
  fun_induction decodeFrom position seen bs with
  | case1 position seen => cases h
  | case2 position seen lead rest c size hstep ih =>
    obtain ⟨more, after, rfl, hchar, rfl⟩ := step_eq_char hstep
    rw [Nat.add_sub_cancel, List.drop_left] at ih h
    obtain ⟨ds, rest, rfl, hfirst, hbad⟩ := ih h
    have hencode : encode (c :: ds) = lead :: more ++ encode ds := by
      rw [encode, List.flatMap_cons, hchar]
      rfl
    refine ⟨c :: ds, rest, by rw [hencode, List.append_assoc, List.cons_append], ?_, hbad⟩
    rw [hfirst, hencode, List.length_append, List.length_cons, Nat.add_assoc]
  | case3 position seen lead rest count reason hstep =>
    cases h
    exact ⟨[], rest, rfl, rfl, hstep⟩

/-- Bytes that cannot be decoded stay so when more follow, unless the data end
inside a character. -/
theorem step_append {count : Nat} {reason : Reason} (h : step lead rest = .bad count reason)
    (hreason : reason ≠ .ended) (more : List UInt8) :
    step lead (rest ++ more) = .bad count reason := by
  revert h
  fun_cases step lead rest with
  | case1 | case4 | case9 | case16 => rintro ⟨⟩
  | case3 | case6 | case8 | case11 | case13 | case15 =>
    -- The data end inside a character.
    rintro ⟨⟩
    exact absurd rfl hreason
  | _ =>
    rintro ⟨⟩
    simp only [step, List.cons_append, if_true, if_false, Bool.false_eq_true, *]

/-- **Bytes of a text before some that cannot be decoded** are no text. -/
theorem ne_encode_of_step {count : Nat} {reason : Reason} (h : step lead rest = .bad count reason)
    (cs ds : List Char) : encode cs ++ lead :: rest ≠ encode ds := by
  intro heq
  have hdecode := congrArg (decodeFrom 0 []) heq
  rw [decodeFrom_encode_append, decodeFrom_encode, decodeFrom, h] at hdecode
  cases hdecode

theorem encode_injective : Function.Injective encode := fun cs ds h =>
  Except.ok.inj ((decode_encode cs).symm.trans (h ▸ decode_encode ds))

theorem isEmpty_encode (cs : List Char) : (encode cs).isEmpty = cs.isEmpty := by
  cases cs with
  | nil => rfl
  | cons c cs =>
    obtain ⟨lead, more, hchar, -⟩ := step_encodeChar c
    rw [encode, List.flatMap_cons, hchar]
    rfl

theorem decode_eq_error_iff : (∃ f, decode bs = .error f) ↔ ∀ cs, bs ≠ encode cs := by
  cases h : decode bs with
  | ok cs => exact iff_of_false nofun fun hne => hne cs (decode_eq_ok_iff.1 h)
  | error f =>
    refine iff_of_true ⟨f, rfl⟩ fun cs hcs => ?_
    rw [hcs, decode_encode] at h
    cases h

/-! ## Newlines -/

/-- The byte of a newline. -/
def newline : UInt8 := 0x0A

theorem encodeChar_newline : encodeChar '\n' = [newline] := rfl

/-- A character that one byte is not enough for has no byte in common with
one that it is enough for. -/
theorem le_toNat_of_mem_encodeChar (hc : 0x80 ≤ c.toNat) : ∀ x ∈ encodeChar c, 0x80 ≤ x.toNat := by
  have hvalid := toNat_char c
  rw [encodeChar_eq, if_neg (by omega)]
  split
  · simp only [List.forall_mem_cons, UInt8.toNat_ofNat']
    exact ⟨by omega, by omega, nofun⟩
  · split
    · simp only [List.forall_mem_cons, UInt8.toNat_ofNat']
      exact ⟨by omega, by omega, by omega, nofun⟩
    · simp only [List.forall_mem_cons, UInt8.toNat_ofNat']
      exact ⟨by omega, by omega, by omega, by omega, nofun⟩

/-- **The byte of a newline** is part of no other character. -/
theorem newline_mem_encodeChar (h : newline ∈ encodeChar c) : c = '\n' := by
  by_cases hc : 0x80 ≤ c.toNat
  · exact absurd (le_toNat_of_mem_encodeChar hc _ h) (by decide)
  · rw [encodeChar_eq, if_pos (by omega), List.mem_singleton] at h
    have hnumber := congrArg UInt8.toNat h
    rw [UInt8.toNat_ofNat', Nat.mod_eq_of_lt (by omega)] at hnumber
    exact Char.toNat_inj.1 hnumber.symm

theorem newline_not_mem_encode (h : '\n' ∉ cs) : newline ∉ encode cs := by
  rw [encode, List.mem_flatMap]
  rintro ⟨c, hc, hmem⟩
  exact h (newline_mem_encodeChar hmem ▸ hc)

theorem encode_append (cs ds : List Char) : encode (cs ++ ds) = encode cs ++ encode ds :=
  List.flatMap_append

theorem encode_newline (cs ds : List Char) :
    encode (cs ++ '\n' :: ds) = encode cs ++ newline :: encode ds := by
  rw [encode_append, encode, encode, encode, List.flatMap_cons, encodeChar_newline]
  rfl

/-- **Induction on the lines of a text**: it has no newline, or it is a line
with a text behind its newline. -/
@[elab_as_elim]
theorem newline_induction {motive : List Char → Prop} (last : ∀ l, '\n' ∉ l → motive l)
    (line : ∀ l cs, '\n' ∉ l → motive cs → motive (l ++ '\n' :: cs)) (cs : List Char) :
    motive cs := by
  induction hn : cs.length using Nat.strongRecOn generalizing cs with
  | _ n ih =>
    by_cases hcs : '\n' ∈ cs
    · obtain ⟨l, rest, rfl, hl⟩ := List.eq_append_cons_of_mem hcs
      refine line l rest hl (ih rest.length ?_ rest rfl)
      rw [← hn, List.length_append, List.length_cons]
      omega
    · exact last cs hcs

/-- **Cutting at newlines** may come before or after decoding. -/
theorem splitOn_encode (cs : List Char) :
    (encode cs).splitOn newline = (cs.splitOn '\n').map encode := by
  induction cs using newline_induction with
  | last l hl =>
    rw [List.splitOn_eq_singleton hl, List.splitOn_eq_singleton (newline_not_mem_encode hl)]
    rfl
  | line l cs hl ih =>
    rw [encode_newline, List.splitOn_append_cons_self_of_not_mem (newline_not_mem_encode hl), ih,
      List.splitOn_append_cons_self_of_not_mem hl, List.map_cons]

/-- **Bytes around a newline** are text only if those on either side are. -/
theorem encode_eq_append_newline (h : encode cs = a ++ newline :: b) :
    ∃ as bs, cs = as ++ '\n' :: bs ∧ a = encode as ∧ b = encode bs := by
  induction cs generalizing a with
  | nil => exact absurd h.symm (by simp [encode])
  | cons c cs ih =>
    rw [encode, List.flatMap_cons, ← encode, List.append_eq_append_iff] at h
    rcases h with ⟨a, rfl, hrest⟩ | ⟨_ | ⟨first, more⟩, hchar, hrest⟩
    · obtain ⟨as, bs, rfl, rfl, rfl⟩ := ih hrest
      exact ⟨c :: as, bs, rfl, rfl, rfl⟩
    · -- The bytes before the newline are those of the first character.
      obtain ⟨as, bs, rfl, has, rfl⟩ := ih (a := []) hrest.symm
      rw [List.append_nil] at hchar
      refine ⟨c :: as, bs, rfl, ?_, rfl⟩
      rw [encode, List.flatMap_cons, ← encode, ← has, List.append_nil, hchar]
    · -- The newline is a byte of the first character, and so all of it.
      obtain ⟨rfl, rfl⟩ := List.cons.inj hrest
      have hmem : newline ∈ encodeChar c := by
        rw [hchar]
        exact List.mem_append_right _ List.mem_cons_self
      obtain rfl := newline_mem_encodeChar hmem
      rw [encodeChar_newline] at hchar
      rcases List.append_eq_singleton_iff.1 hchar.symm with ⟨rfl, hmore⟩ | ⟨-, hnil⟩
      · obtain rfl := (List.cons.inj hmore).2
        exact ⟨[], cs, rfl, rfl, rfl⟩
      · cases hnil

end DeliveryAudit.Utf8
