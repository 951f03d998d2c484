import DeliveryAudit.Json.Reading
import DeliveryAudit.Proofs.Text.CodePoint
import Mathlib.Data.List.TakeWhile
/-!
# The spellings of JSON

A character inside a JSON string is spelled as it is, by a short escape,
by the four digits of its number, or by those of two surrogates. However
the characters of a text are spelled (`Spells`), reading the string gives
the text (`stringFrom_spelled`). An object is read as its members, in the
order in which they are spelled (`spellsValue_object`).
-/

namespace DeliveryAudit.Json

/-- **The spellings of a character** inside a string. -/
inductive SpellsChar (c : Char) : List Char → Prop
  | raw : c ≠ '"' → c ≠ '\\' → 0x20 ≤ c.toNat → SpellsChar c [c]
  | short {e : Char} : shortEscape? (.scalar e) = some c → SpellsChar c ['\\', e]
  | number {h₁ h₂ h₃ h₄ : Char} :
      hex4? (.scalar h₁) (.scalar h₂) (.scalar h₃) (.scalar h₄) = some c.toNat →
      SpellsChar c ['\\', 'u', h₁, h₂, h₃, h₄]
  | pair {h₁ h₂ h₃ h₄ l₁ l₂ l₃ l₄ : Char} {high low : Nat} :
      hex4? (.scalar h₁) (.scalar h₂) (.scalar h₃) (.scalar h₄) = some high →
      hex4? (.scalar l₁) (.scalar l₂) (.scalar l₃) (.scalar l₄) = some low →
      isHighSurrogate high = true → isLowSurrogate low = true →
      joinSurrogates high low = c.toNat →
      SpellsChar c ['\\', 'u', h₁, h₂, h₃, h₄, '\\', 'u', l₁, l₂, l₃, l₄]

/-- The spellings of a text, character by character. -/
inductive Spells : List Char → List Char → Prop
  | nil : Spells [] []
  | cons {c : Char} {cs s t : List Char} : SpellsChar c s → Spells cs t → Spells (c :: cs) (s ++ t)

variable {c : Char} {x : CodePoint} {cs ds s t : List Char} {xs rest seen : Text} {n : Nat}

theorem Spells.append (h : Spells cs s) (h' : Spells ds t) : Spells (cs ++ ds) (s ++ t) := by
  induction h with
  | nil => exact h'
  | cons hc _ ih =>
    rw [List.append_assoc]
    exact .cons hc ih

theorem named_toNat (c : Char) : named c.toNat = .scalar c := by
  rw [named, CodePoint.ofNat?_toNat]
  rfl

theorem unicodeEscape_number {h₁ h₂ h₃ h₄ : CodePoint} (h : hex4? h₁ h₂ h₃ h₄ = some c.toNat) :
    unicodeEscape (h₁ :: h₂ :: h₃ :: h₄ :: x :: xs) = .ok (.scalar c, x :: xs) := by
  have hhigh : isHighSurrogate c.toNat = false := by
    have := toNat_char c
    simp [isHighSurrogate]
    omega
  simp only [unicodeEscape, h, hhigh, Bool.false_eq_true, if_false, named_toNat]

theorem unicodeEscape_pair {h₁ h₂ h₃ h₄ l₁ l₂ l₃ l₄ : CodePoint} {high low : Nat}
    (hh : hex4? h₁ h₂ h₃ h₄ = some high) (hl : hex4? l₁ l₂ l₃ l₄ = some low)
    (hhigh : isHighSurrogate high = true) (hlow : isLowSurrogate low = true)
    (hjoin : joinSurrogates high low = c.toNat) :
    unicodeEscape (h₁ :: h₂ :: h₃ :: h₄ :: .scalar '\\' :: .scalar 'u' ::
      l₁ :: l₂ :: l₃ :: l₄ :: x :: xs) = .ok (.scalar c, x :: xs) := by
  simp only [unicodeEscape, hh, hl, hhigh, hlow, hjoin, if_true, named_toNat]

theorem stringFrom_raw (hquote : c ≠ '"') (hslash : c ≠ '\\') (hblank : 0x20 ≤ c.toNat) :
    stringFrom n seen (.scalar c :: xs) = stringFrom n (.scalar c :: seen) xs := by
  rw [stringFrom, if_neg (by simpa [CodePoint.value] using hblank)]
  all_goals simp [hquote, hslash]

theorem stringFrom_short {e : Char} (h : shortEscape? (.scalar e) = some c) :
    stringFrom n seen (.scalar '\\' :: .scalar e :: xs) = stringFrom n (.scalar c :: seen) xs := by
  have he : e ≠ 'u' := fun he => by rw [he] at h; cases h
  rw [stringFrom]
  · simp only [h]
  · simp [he]

theorem stringFrom_unicode (h : unicodeEscape xs = .ok (.scalar c, rest)) :
    stringFrom n seen (.scalar '\\' :: .scalar 'u' :: xs) =
      stringFrom n (.scalar c :: seen) rest := by
  rw [stringFrom]
  split
  · rename_i f hf
    rw [h] at hf
    cases hf
  · rename_i p r hp
    rw [h] at hp
    cases hp
    rfl

/-- A spelled character is read as the character, inside a string that goes
on. -/
theorem stringFrom_spelledChar (h : SpellsChar c s) :
    stringFrom n seen (s.map .scalar ++ x :: xs) = stringFrom n (.scalar c :: seen) (x :: xs) := by
  cases h with
  | raw hquote hslash hblank => exact stringFrom_raw hquote hslash hblank
  | short he => exact stringFrom_short he
  | number hh => exact stringFrom_unicode (unicodeEscape_number hh)
  | pair hh hl hhigh hlow hjoin =>
    exact stringFrom_unicode (unicodeEscape_pair hh hl hhigh hlow hjoin)

/-- **A spelled text is read as the text**, up to the quote after it. -/
theorem stringFrom_spelled (h : Spells cs s) :
    stringFrom n seen (s.map .scalar ++ .scalar '"' :: rest) =
      .ok (seen.reverse ++ cs.map .scalar, rest) := by
  induction h generalizing seen with
  | nil =>
    rw [List.map_nil, List.nil_append, stringFrom, List.append_nil]
  | @cons c cs s t hc _ ih =>
    have hstep : stringFrom n seen (s.map .scalar ++ (t.map .scalar ++ .scalar '"' :: rest)) =
        stringFrom n (.scalar c :: seen) (t.map .scalar ++ .scalar '"' :: rest) := by
      cases t with
      | nil => exact stringFrom_spelledChar hc
      | cons y ys => exact stringFrom_spelledChar hc
    rw [List.map_append, List.append_assoc, hstep, ih, List.reverse_cons, List.append_assoc]
    rfl

/-! ## Spellings stay on one line -/

theorem le_toNat_of_hexDigit? {d : Nat} (h : hexDigit? (.scalar c) = some d) : 0x20 ≤ c.toNat := by
  by_cases hc : 0x20 ≤ c.toNat
  · exact hc
  · have hdigit : Number.digitOf c = 99 := by
      unfold Number.digitOf
      simp only [Bool.and_eq_true, decide_eq_true_eq]
      rw [if_neg (by omega), if_neg (by omega), if_neg (by omega)]
    simp [hexDigit?, hdigit] at h

theorem le_toNat_of_hex4? {h₁ h₂ h₃ h₄ : Char} {m : Nat}
    (h : hex4? (.scalar h₁) (.scalar h₂) (.scalar h₃) (.scalar h₄) = some m) :
    ∀ y ∈ [h₁, h₂, h₃, h₄], 0x20 ≤ y.toNat := by
  simp only [hex4?, Option.bind_eq_bind, Option.bind_eq_some_iff] at h
  obtain ⟨_, h1, _, h2, _, h3, _, h4, -⟩ := h
  intro y hy
  simp only [List.mem_cons, List.not_mem_nil, or_false] at hy
  rcases hy with rfl | rfl | rfl | rfl
  · exact le_toNat_of_hexDigit? h1
  · exact le_toNat_of_hexDigit? h2
  · exact le_toNat_of_hexDigit? h3
  · exact le_toNat_of_hexDigit? h4

theorem le_toNat_of_shortEscape? {e : Char} (h : shortEscape? (.scalar e) = some c) :
    0x20 ≤ e.toNat := by
  unfold shortEscape? at h
  split at h
  case h_9 => cases h
  all_goals
    rename_i heq
    cases heq
    decide

/-- The characters that spell a character are no control characters. -/
theorem SpellsChar.le_toNat (h : SpellsChar c s) : ∀ y ∈ s, 0x20 ≤ y.toNat := by
  have hslash : 0x20 ≤ ('\\').toNat := by decide
  have hu : 0x20 ≤ ('u').toNat := by decide
  cases h with
  | raw _ _ hblank => simpa using hblank
  | short he => simpa [hslash] using le_toNat_of_shortEscape? he
  | number hh => simpa [hslash, hu] using le_toNat_of_hex4? hh
  | pair hh hl =>
    have hhigh := le_toNat_of_hex4? hh
    have hlow := le_toNat_of_hex4? hl
    simp only [List.forall_mem_cons] at hhigh hlow ⊢
    exact ⟨hslash, hu, hhigh.1, hhigh.2.1, hhigh.2.2.1, hhigh.2.2.2.1, hslash, hu, hlow⟩

/-- A spelled text has no line breaks in it. -/
theorem Spells.newline_not_mem (h : Spells cs s) : '\n' ∉ s := by
  induction h with
  | nil => exact List.not_mem_nil
  | cons hc _ ih =>
    rw [List.mem_append]
    rintro (hmem | hmem)
    · exact absurd (hc.le_toNat _ hmem) (by decide)
    · exact ih hmem

/-! ## Blanks -/

/-- Whether all these characters are blanks. -/
def Blanks (bs : List Char) : Prop := ∀ b ∈ bs, isBlank (.scalar b) = true

variable {bs b₀ b₁ b₂ b₃ b₄ b₅ : List Char}

theorem skipBlanks_append (hb : Blanks bs) (hx : isBlank x = false) :
    skipBlanks (bs.map .scalar ++ x :: xs) = x :: xs := by
  rw [skipBlanks, List.dropWhile_append_of_pos (List.forall_mem_map.2 hb),
    List.dropWhile_cons_of_neg (by simp [hx])]

theorem skipBlanks_blanks (hb : Blanks bs) : skipBlanks (bs.map .scalar) = [] :=
  List.dropWhile_eq_nil_iff.2 (List.forall_mem_map.2 hb)

/-! ## Values -/

/-- **The spellings of a value** inside so many containers: they start with
what is neither a blank nor a mark, and from a text that starts with one of
them the value is read, whatever follows. -/
structure SpellsValue (depth : Nat) (v : Json) (l : Text) : Prop where
  start : ∃ p ps, l = p :: ps ∧ isBlank p = false ∧ p ≠ .scalar '\ufeff'
  reads : ∀ rest, ∃ hlt, value depth (l ++ rest) = .ok (v, ⟨rest, hlt⟩)

variable {depth : Nat} {v : Json} {ms : List (Text × Json)} {name ns : List Char} {l m : Text}

theorem SpellsValue.skipBlanks_eq (h : SpellsValue depth v l) (hb : Blanks bs) :
    skipBlanks (bs.map .scalar ++ (l ++ rest)) = l ++ rest := by
  obtain ⟨p, ps, rfl, hp, -⟩ := h.start
  exact skipBlanks_append hb hp

/-- A spelled string is a value. -/
theorem spellsValue_text (depth : Nat) (h : Spells cs s) :
    SpellsValue depth (.text (cs.map .scalar))
      (.scalar '"' :: (s.map .scalar ++ [.scalar '"'])) where
  start := ⟨_, _, rfl, rfl, by decide⟩
  reads rest := by
    have htext : CodePoint.scalar '"' :: (s.map .scalar ++ [.scalar '"']) ++ rest =
        .scalar '"' :: (s.map .scalar ++ .scalar '"' :: rest) := by simp
    have hread : stringFrom (s.map CodePoint.scalar ++ .scalar '"' :: rest).length []
        (s.map .scalar ++ .scalar '"' :: rest) = .ok (cs.map .scalar, rest) := stringFrom_spelled h
    rw [htext]
    refine ⟨by simp; omega, ?_⟩
    rw [value]
    split
    · rename_i f hf
      rw [hread] at hf
      cases hf
    · rename_i t r hr
      rw [hread] at hr
      cases hr
      rfl

theorem spellsValue_null (depth : Nat) : SpellsValue depth .null (Text.ofString "null") where
  start := ⟨_, _, rfl, rfl, by decide⟩
  reads rest := by
    have hword : word? (Text.ofString "null") .null
        (.scalar 'n' :: .scalar 'u' :: .scalar 'l' :: .scalar 'l' :: rest) =
        some (.null, ⟨rest, by simp; omega⟩) := by
      unfold word?
      rw [dif_pos (by simp [Text.ofString, List.isPrefixOf])]
      rfl
    refine ⟨by simp [Text.ofString]; omega, ?_⟩
    change value depth (.scalar 'n' :: .scalar 'u' :: .scalar 'l' :: .scalar 'l' :: rest) = _
    rw [value] <;> try decide
    unfold simple
    rw [hword]
    rfl

/-! ## Members -/

/-- What follows the quote of a member's name, up to the end of its value:
the name and the value, as they are spelled, and blanks around them. -/
abbrev memberSpelling (ns b₂ b₃ : List Char) (l : Text) (b₄ : List Char) (rest : Text) : Text :=
  ns.map .scalar ++ .scalar '"' :: (b₂.map .scalar ++ .scalar ':' ::
    (b₃.map .scalar ++ (l ++ (b₄.map .scalar ++ rest))))

/-- **The spellings of members**, from the first quote to the brace that ends
the object. -/
inductive SpellsMembers (depth : Nat) : List (Text × Json) → Text → Prop
  | last {name ns b₂ b₃ b₄ : List Char} {l : Text} {v : Json} : Spells name ns →
      SpellsValue depth v l → Blanks b₂ → Blanks b₃ → Blanks b₄ →
      SpellsMembers depth [(name.map .scalar, v)]
        (.scalar '"' :: memberSpelling ns b₂ b₃ l b₄ [.scalar '\x7d'])
  | cons {name ns b₂ b₃ b₄ b₅ : List Char} {l m : Text} {v : Json} {ms : List (Text × Json)} :
      Spells name ns → SpellsValue depth v l → Blanks b₂ → Blanks b₃ → Blanks b₄ → Blanks b₅ →
      SpellsMembers depth ms m →
      SpellsMembers depth ((name.map .scalar, v) :: ms)
        (.scalar '"' :: memberSpelling ns b₂ b₃ l b₄ (.scalar ',' :: (b₅.map .scalar ++ m)))

theorem SpellsMembers.exists_cons (h : SpellsMembers depth ms m) : ∃ m', m = .scalar '"' :: m' := by
  cases h with
  | last => exact ⟨_, rfl⟩
  | cons => exact ⟨_, rfl⟩

theorem blanks_nil : Blanks [] := fun _ h => absurd h List.not_mem_nil

theorem blanks_space : Blanks [' '] := by simp [Blanks, isBlank]

/-- Members with a blank after every colon and every comma. -/
theorem SpellsMembers.spaced_last (hname : Spells name ns) (hvalue : SpellsValue depth v l) :
    SpellsMembers depth [(name.map .scalar, v)]
      (.scalar '"' :: memberSpelling ns [] [' '] l [] [.scalar '\x7d']) :=
  .last hname hvalue blanks_nil blanks_space blanks_nil

theorem SpellsMembers.spaced_cons (hname : Spells name ns) (hvalue : SpellsValue depth v l)
    (h : SpellsMembers depth ms m) :
    SpellsMembers depth ((name.map .scalar, v) :: ms)
      (.scalar '"' :: memberSpelling ns [] [' '] l [] (.scalar ',' :: ([.scalar ' '] ++ m))) :=
  .cons hname hvalue blanks_nil blanks_space blanks_nil blanks_space h

/-- **A member whose name and value are spelled** is read. The object ends
with it at a brace, and goes on at a comma. -/
theorem members_spelled {n : Nat} (seen : List (Text × Json)) {d : CodePoint}
    (hname : Spells name ns) (hvalue : SpellsValue depth v l) (h₂ : Blanks b₂) (h₃ : Blanks b₃)
    (h₄ : Blanks b₄) (hd : isBlank d = false)
    (hn : (CodePoint.scalar '"' :: memberSpelling ns b₂ b₃ l b₄ (d :: rest)).length ≤ n) :
    ∃ hlt hle, members depth n seen (.scalar '"' :: memberSpelling ns b₂ b₃ l b₄ (d :: rest)) hn =
      if d == .scalar '\x7d' then .ok (((name.map .scalar, v) :: seen).reverse, ⟨rest, hlt⟩)
      else if d == .scalar ',' then
        members depth n ((name.map .scalar, v) :: seen) (skipBlanks rest) hle
      else .error (.lack .comma (rest.length + 1)) := by
  have hread : ∀ tail : Text, stringFrom (ns.map CodePoint.scalar ++ .scalar '"' :: tail).length []
      (ns.map .scalar ++ .scalar '"' :: tail) = .ok (name.map .scalar, tail) :=
    fun tail => stringFrom_spelled hname
  obtain ⟨hlt, hreads⟩ : ∃ hlt, value depth
      (skipBlanks (b₃.map CodePoint.scalar ++ (l ++ (b₄.map CodePoint.scalar ++ d :: rest)))) =
      .ok (v, ⟨b₄.map CodePoint.scalar ++ d :: rest, hlt⟩) := by
    rw [hvalue.skipBlanks_eq h₃]
    exact hvalue.reads _
  have hlength : rest.length < n := by
    simp only [memberSpelling, List.length_cons, List.length_append] at hn
    omega
  refine ⟨hlength, Nat.le_trans (skipBlanks_length_le rest) (Nat.le_of_lt hlength), ?_⟩
  rw [members]
  simp only [beq_self_eq_true, if_true]
  split
  · rename_i f hf
    rw [hread] at hf
    cases hf
  · rename_i t r hr
    rw [hread] at hr
    cases hr
    split
    · rename_i hnil
      rw [skipBlanks_append h₂ rfl] at hnil
      cases hnil
    · rename_i c rest' hcolon
      rw [skipBlanks_append h₂ rfl] at hcolon
      cases hcolon
      simp only [beq_self_eq_true, if_true]
      split
      · rename_i f hf
        rw [hreads] at hf
        cases hf
      · rename_i w r hr hw
        rw [hreads] at hw
        cases hw
        split
        · rename_i hnil
          rw [skipBlanks_append h₄ hd] at hnil
          cases hnil
        · rename_i e rest' hend
          rw [skipBlanks_append h₄ hd] at hend
          cases hend
          rfl

/-- **Spelled members are read as they are written.** By induction on the
members: each is followed by a comma, the last one by the brace. -/
theorem members_spelledMembers (h : SpellsMembers depth ms m) (rest : Text) {n : Nat}
    (seen : List (Text × Json)) (hn : (m ++ rest).length ≤ n) :
    ∃ hlt, members depth n seen (m ++ rest) hn = .ok (seen.reverse ++ ms, ⟨rest, hlt⟩) := by
  induction h generalizing seen n with
  | @last name ns b₂ b₃ b₄ l v hname hvalue h₂ h₃ h₄ =>
    have htext : CodePoint.scalar '"' :: memberSpelling ns b₂ b₃ l b₄ [.scalar '\x7d'] ++ rest =
        .scalar '"' :: memberSpelling ns b₂ b₃ l b₄ (.scalar '\x7d' :: rest) := by
      simp [memberSpelling]
    simp only [htext] at hn ⊢
    obtain ⟨hlt, _, hmember⟩ := members_spelled seen hname hvalue h₂ h₃ h₄ rfl hn
    refine ⟨hlt, ?_⟩
    rw [hmember, if_pos (beq_self_eq_true _), List.reverse_cons]
  | @cons name ns b₂ b₃ b₄ b₅ l m v ms hname hvalue h₂ h₃ h₄ h₅ hms ih =>
    have htext : CodePoint.scalar '"' ::
          memberSpelling ns b₂ b₃ l b₄ (.scalar ',' :: (b₅.map .scalar ++ m)) ++ rest =
        .scalar '"' ::
          memberSpelling ns b₂ b₃ l b₄ (.scalar ',' :: (b₅.map .scalar ++ (m ++ rest))) := by
      simp [memberSpelling]
    simp only [htext] at hn ⊢
    obtain ⟨_, hle, hmember⟩ := members_spelled seen hname hvalue h₂ h₃ h₄ rfl hn
    have hskip : skipBlanks (b₅.map .scalar ++ (m ++ rest)) = m ++ rest := by
      obtain ⟨m', rfl⟩ := hms.exists_cons
      exact skipBlanks_append h₅ rfl
    simp only [hskip] at hle hmember
    obtain ⟨hlt, hrest⟩ := ih ((name.map .scalar, v) :: seen) hle
    refine ⟨hlt, ?_⟩
    rw [hmember, if_neg (by decide), if_pos (beq_self_eq_true _), hrest, List.reverse_cons,
      List.append_assoc]
    rfl

/-- **An object whose members are spelled** is a value. -/
theorem spellsValue_object (h : SpellsMembers depth ms m) (hb : Blanks bs) :
    SpellsValue (depth + 1) (.object ms) (.scalar '\x7b' :: (bs.map .scalar ++ m)) where
  start := ⟨_, _, rfl, rfl, by decide⟩
  reads rest := by
    obtain ⟨m', rfl⟩ := h.exists_cons
    have hskip : skipBlanks (bs.map .scalar ++ .scalar '"' :: (m' ++ rest)) =
        .scalar '"' :: (m' ++ rest) := skipBlanks_append hb rfl
    have htext : CodePoint.scalar '\x7b' :: (bs.map .scalar ++ .scalar '"' :: m') ++ rest =
        .scalar '\x7b' :: (bs.map .scalar ++ .scalar '"' :: (m' ++ rest)) := by simp
    rw [htext]
    refine ⟨by simp; omega, ?_⟩
    rw [value]
    split
    · rename_i hnil
      rw [hskip] at hnil
      cases hnil
    · rename_i d tail hquote
      rw [hskip] at hquote
      cases hquote
      have hne : (CodePoint.scalar '"' == .scalar '\x7d') = false := rfl
      simp only [hne, Bool.false_eq_true, if_false]
      obtain ⟨hlt, hmembers⟩ := members_spelledMembers h rest [] (Nat.le_refl _)
      split
      · rename_i f hf
        cases hmembers.symm.trans hf
      · rename_i found r hr hfound
        cases hmembers.symm.trans hfound
        rfl

section

variable [Bounds]

/-- **A text that spells a value**, with blanks around it, is read as the
value. -/
theorem read_of_spellsValue (h : SpellsValue Bounds.brackets v l) (h₀ : Blanks b₀)
    (h₅ : Blanks b₅) : read (b₀.map .scalar ++ (l ++ b₅.map .scalar)) = .ok v := by
  have hhead : ((b₀.map CodePoint.scalar ++ (l ++ b₅.map CodePoint.scalar)).head? ==
      some (.scalar '\ufeff')) = false := by
    refine beq_eq_false_iff_ne.2 fun he => ?_
    cases b₀ with
    | nil =>
      obtain ⟨p, ps, rfl, -, hmark⟩ := h.start
      exact hmark (Option.some.inj he)
    | cons c b₀ =>
      have hc : isBlank (.scalar c) = true := h₀ c List.mem_cons_self
      rw [Option.some.inj he] at hc
      exact absurd hc (by decide)
  obtain ⟨hlt, hvalue⟩ : ∃ hlt, value Bounds.brackets
      (skipBlanks (b₀.map CodePoint.scalar ++ (l ++ b₅.map CodePoint.scalar))) =
      .ok (v, ⟨b₅.map .scalar, hlt⟩) := by
    rw [h.skipBlanks_eq h₀]
    exact h.reads _
  rw [read, hhead, hvalue]
  simp only [Bool.false_eq_true, if_false, skipBlanks_blanks h₅]

/-- An object in plain writing, and nothing else. -/
theorem read_of_spellsMembers (h : SpellsMembers (Bounds.brackets - 1) ms m) :
    read (.scalar '\x7b' :: m) = .ok (.object ms) := by
  have hobject := spellsValue_object h blanks_nil
  rw [Nat.sub_add_cancel Bounds.brackets_pos] at hobject
  have hread := read_of_spellsValue hobject blanks_nil blanks_nil
  simpa using hread

end

/-! ## Envelopes -/

/-- What follows the brace of an object with one member that holds a text:
its name and the text, as they are spelled, and blanks around them. -/
abbrev memberText (ns s b₂ b₃ b₄ rest : List Char) : List Char :=
  '"' :: (ns ++ '"' :: (b₂ ++ ':' :: (b₃ ++ '"' :: (s ++ '"' :: (b₄ ++ '\x7d' :: rest)))))

/-- **The spellings of an envelope**: an object whose one member `log`
holds a text, with blanks around every token, and all on one line. -/
inductive SpellsEnvelope (cs : List Char) : List Char → Prop
  | mk {ns s : List Char} (b₀ b₁ b₂ b₃ b₄ b₅ : List Char) : Spells "log".toList ns → Spells cs s →
      (∀ bs ∈ [b₀, b₁, b₂, b₃, b₄, b₅], Blanks bs ∧ '\n' ∉ bs) →
      SpellsEnvelope cs (b₀ ++ '\x7b' :: (b₁ ++ memberText ns s b₂ b₃ b₄ b₅))

/-- A spelled envelope is one line. -/
theorem SpellsEnvelope.newline_not_mem (h : SpellsEnvelope cs t) : '\n' ∉ t := by
  cases h with
  | mk b₀ b₁ b₂ b₃ b₄ b₅ hname hs hb =>
    simp only [List.forall_mem_cons] at hb
    obtain ⟨h₀, h₁, h₂, h₃, h₄, h₅, -⟩ := hb
    simp [memberText, h₀.2, h₁.2, h₂.2, h₃.2, h₄.2, h₅.2, hname.newline_not_mem,
      hs.newline_not_mem]

theorem SpellsEnvelope.ne_nil (h : SpellsEnvelope cs t) : t ≠ [] := by
  cases h with
  | mk => exact List.append_ne_nil_of_right_ne_nil _ (List.cons_ne_nil _ _)

/-- **A spelled envelope is read as the object that it spells.** -/
theorem SpellsEnvelope.read_eq [Bounds] (h : SpellsEnvelope cs t) :
    read (t.map .scalar) = .ok (.object [(Text.ofString "log", .text (cs.map .scalar))]) := by
  cases h with
  | @mk ns s b₀ b₁ b₂ b₃ b₄ b₅ hname hs hb =>
    simp only [List.forall_mem_cons] at hb
    obtain ⟨⟨h₀, -⟩, ⟨h₁, -⟩, ⟨h₂, -⟩, ⟨h₃, -⟩, ⟨h₄, -⟩, ⟨h₅, -⟩, -⟩ := hb
    have hobject := spellsValue_object
      (.last hname (spellsValue_text (Bounds.brackets - 1) hs) h₂ h₃ h₄) h₁
    rw [Nat.sub_add_cancel Bounds.brackets_pos] at hobject
    have htext : (b₀ ++ '\x7b' :: (b₁ ++ memberText ns s b₂ b₃ b₄ b₅)).map CodePoint.scalar =
        b₀.map .scalar ++ (.scalar '\x7b' :: (b₁.map .scalar ++ .scalar '"' ::
          memberSpelling ns b₂ b₃ (.scalar '"' :: (s.map .scalar ++ [.scalar '"'])) b₄
            [.scalar '\x7d']) ++ b₅.map .scalar) := by
      simp [memberText, memberSpelling]
    rw [htext]
    exact read_of_spellsValue hobject h₀ h₅

/-- The line of an object whose member `log` is spelled like this. -/
def envelope (s : List Char) : List Char := "\x7b\"log\": \"".toList ++ (s ++ "\"\x7d".toList)

theorem spells_of_raw (h : ∀ c ∈ cs, c ≠ '"' ∧ c ≠ '\\' ∧ 0x20 ≤ c.toNat) : Spells cs cs := by
  induction cs with
  | nil => exact .nil
  | cons c cs ih =>
    obtain ⟨hquote, hslash, hblank⟩ := h c List.mem_cons_self
    exact .cons (s := [c]) (.raw hquote hslash hblank)
      (ih fun d hd => h d (List.mem_cons_of_mem _ hd))

theorem spellsEnvelope_envelope (h : Spells cs s) : SpellsEnvelope cs (envelope s) := by
  have hname : Spells "log".toList "log".toList := spells_of_raw (by simp)
  refine .mk [] [] [] [' '] [] [] hname h ?_
  simp [Blanks, isBlank]

end DeliveryAudit.Json
