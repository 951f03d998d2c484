import DeliveryAudit.Compression.Gzip
import DeliveryAudit.Proofs.Except
/-!
# Corrupt members

A gzip file fails for corrupt data just when a member behind intact ones
has a whole header and corrupt deflated data (`decompress_eq_data`). Every
member takes bytes (`length_lt_of_member`), for reading never gives bits
back (`size_le_of_inflate`), so that the budget of the reader lasts to the
end of the file.
-/

namespace DeliveryAudit

/-! ## Reading goes forward -/

namespace Inflate

variable {s s' : Bits}

theorem size_of_take {n m : Nat} (h : s.take n = .ok (m, s')) : s'.size + n = s.size := by
  fun_induction Bits.take n s with
  | case1 s hn =>
    cases h
    simp only [Bits.size]
    omega
  | case2 s hn hbytes => cases h
  | case3 s hn b rest hbytes ih =>
    rw [ih h]
    simp only [Bits.size, hbytes, List.length_cons]
    omega

theorem size_le_of_take {n m : Nat} (h : s.take n = .ok (m, s')) : s'.size ≤ s.size := by
  have hsize := size_of_take h
  omega

theorem size_alignToByte_le (s : Bits) : s.alignToByte.size ≤ s.size := by
  simp only [Bits.alignToByte, Bits.size]
  omega

theorem size_le_of_decodeFrom {code : Code} {length first index word : Nat} {symbol : Option Nat}
    (h : code.decodeFrom length first index word s = .ok (symbol, s')) : s'.size ≤ s.size := by
  fun_induction Code.decodeFrom code length first index word s with
  | case1 => cases h; exact Nat.le_refl _
  | case2 => cases h
  | case3 length first index word s _ b s₁ hbit =>
    cases h
    exact size_le_of_take hbit
  | case4 length first index word s _ b s₁ hbit _ _ _ _ ih =>
    exact Nat.le_trans (ih h) (size_le_of_take hbit)

theorem size_le_of_decode {code : Code} {symbol : Option Nat}
    (h : code.decode s = .ok (symbol, s')) : s'.size ≤ s.size :=
  size_le_of_decodeFrom h

theorem size_le_of_reference {distances : Code} {symbol : Nat} {out out' : Array UInt8}
    (h : reference distances symbol out s = .ok (out', s')) : s'.size ≤ s.size := by
  unfold reference at h
  cases hlength : lengthBases[symbol]? with
  | none => rw [hlength] at h; cases h
  | some base =>
    simp only [hlength] at h
    obtain ⟨⟨more, s₁⟩, h₁, hrest⟩ := Except.exists_of_bind_eq_ok h
    obtain ⟨⟨distance, s₂⟩, h₂, hrest⟩ := Except.exists_of_bind_eq_ok hrest
    cases hdistance : distance.bind (distanceBases[·]?) with
    | none => simp only [hdistance] at hrest; cases hrest
    | some base =>
      simp only [hdistance] at hrest
      obtain ⟨⟨more, s₃⟩, h₃, hrest⟩ := Except.exists_of_bind_eq_ok hrest
      split at hrest
      · cases hrest
      · cases hrest
        exact Nat.le_trans (size_le_of_take h₃)
          (Nat.le_trans (size_le_of_decode h₂) (size_le_of_take h₁))

-- The unifier takes the difference with 257 one by one.
set_option maxRecDepth 2000 in
theorem codedBlock_succ (literals distances : Code) (budget : Nat) (out : Array UInt8) (s : Bits) :
    codedBlock literals distances (budget + 1) out s =
      match literals.decode s with
      | .error f => .error f
      | .ok (none, _) => .error (.corrupt .literalCode)
      | .ok (some symbol, s) =>
        if symbol < 256 then
          codedBlock literals distances budget (out.push (UInt8.ofNat symbol)) s
        else if symbol == 256 then
          .ok (out, s)
        else
          match reference distances (symbol - 257) out s with
          | .error f => .error f
          | .ok (out, s) => codedBlock literals distances budget out s := by
  rfl

theorem size_le_of_codedBlock {literals distances : Code} {budget : Nat} {out out' : Array UInt8}
    (h : codedBlock literals distances budget out s = .ok (out', s')) : s'.size ≤ s.size := by
  induction budget generalizing out s with
  | zero =>
    have hended : codedBlock literals distances 0 out s = .error .ended := rfl
    rw [hended] at h
    cases h
  | succ budget ih =>
    rw [codedBlock_succ] at h
    split at h
    · cases h
    · cases h
    · next symbol s₁ hsymbol =>
      have hread := size_le_of_decode hsymbol
      split at h
      · exact Nat.le_trans (ih h) hread
      · split at h
        · cases h
          exact hread
        · split at h
          · cases h
          · next out₁ s₂ hreference =>
            exact Nat.le_trans (ih h) (Nat.le_trans (size_le_of_reference hreference) hread)

theorem size_le_of_threeBits {count : Nat} {ns : List Nat}
    (h : threeBits count s = .ok (ns, s')) : s'.size ≤ s.size := by
  induction count generalizing s ns with
  | zero => cases h; exact Nat.le_refl _
  | succ count ih =>
    rw [threeBits] at h
    obtain ⟨⟨n, s₁⟩, h₁, hrest⟩ := Except.exists_of_bind_eq_ok h
    obtain ⟨⟨ns, s₂⟩, h₂, hrest⟩ := Except.exists_of_bind_eq_ok hrest
    cases hrest
    exact Nat.le_trans (ih h₂) (size_le_of_take h₁)

theorem size_le_of_lengthSymbol {code : Code} {symbol : Nat}
    (h : lengthSymbol code s = .ok (symbol, s')) : s'.size ≤ s.size := by
  unfold lengthSymbol at h
  obtain ⟨⟨symbol, s₁⟩, h₁, hrest⟩ := Except.exists_of_bind_eq_ok h
  cases hrest
  exact size_le_of_decode h₁

theorem size_le_of_sentLengths {code : Code} {total budget : Nat} {seen lengths : List Nat}
    (h : sentLengths code total budget seen s = .ok (lengths, s')) : s'.size ≤ s.size := by
  fun_induction sentLengths code total budget seen s with
  | case1 => cases h
  | case2 => cases h; exact Nat.le_refl _
  | case3 => cases h
  | case4 budget seen s _ symbol s₁ hsymbol _ ih =>
    exact Nat.le_trans (ih h) (size_le_of_lengthSymbol hsymbol)
  | case5 => cases h
  | case6 => cases h
  | case7 => cases h
  | case8 budget seen s _ symbol s₁ hsymbol _ extra least _ more s₂ hmore _ previous _ _ ih =>
    exact Nat.le_trans (ih h)
      (Nat.le_trans (size_le_of_take hmore) (size_le_of_lengthSymbol hsymbol))

theorem size_le_of_transmittedCodes {literals distances : Code}
    (h : transmittedCodes s = .ok (literals, distances, s')) : s'.size ≤ s.size := by
  unfold transmittedCodes at h
  obtain ⟨⟨header, s₁⟩, h₁, hrest⟩ := Except.exists_of_bind_eq_ok h
  obtain ⟨-, hrest⟩ := Except.of_guard_eq_ok hrest
  obtain ⟨⟨sent, s₂⟩, h₂, hrest⟩ := Except.exists_of_bind_eq_ok hrest
  obtain ⟨-, hrest⟩ := Except.of_guard_eq_ok hrest
  obtain ⟨⟨seen, s₃⟩, h₃, hrest⟩ := Except.exists_of_bind_eq_ok hrest
  obtain ⟨-, hrest⟩ := Except.of_guard_eq_ok hrest
  obtain ⟨-, hrest⟩ := Except.of_guard_eq_ok hrest
  obtain ⟨-, hrest⟩ := Except.of_guard_eq_ok hrest
  cases hrest
  exact Nat.le_trans (size_le_of_sentLengths h₃)
    (Nat.le_trans (size_le_of_threeBits h₂) (size_le_of_take h₁))

theorem size_le_of_storedBlock {out out' : Array UInt8}
    (h : storedBlock out s = .ok (out', s')) : s'.size ≤ s.size := by
  unfold storedBlock at h
  obtain ⟨⟨lengths, s₁⟩, h₁, hrest⟩ := Except.exists_of_bind_eq_ok h
  obtain ⟨-, hrest⟩ := Except.of_guard_eq_ok hrest
  obtain ⟨-, hrest⟩ := Except.of_guard_eq_ok hrest
  cases hrest
  have hlengths : s₁.size ≤ s.size := Nat.le_trans (size_le_of_take h₁) (size_alignToByte_le s)
  simp only [Bits.size, List.length_drop] at hlengths ⊢
  omega

theorem size_le_of_block {kind : Nat} {out out' : Array UInt8}
    (h : block kind out s = .ok (out', s')) : s'.size ≤ s.size := by
  unfold block at h
  split at h
  · exact size_le_of_storedBlock h
  · exact size_le_of_codedBlock h
  · obtain ⟨⟨literals, distances, s₁⟩, h₁, hrest⟩ := Except.exists_of_bind_eq_ok h
    exact Nat.le_trans (size_le_of_codedBlock hrest) (size_le_of_transmittedCodes h₁)
  · cases h

theorem size_le_of_blocks {budget : Nat} {out out' : Array UInt8}
    (h : blocks budget out s = .ok (out', s')) : s'.size ≤ s.size := by
  induction budget generalizing out s with
  | zero => cases h
  | succ budget ih =>
    rw [blocks] at h
    obtain ⟨⟨header, s₁⟩, h₁, hrest⟩ := Except.exists_of_bind_eq_ok h
    obtain ⟨⟨out₂, s₂⟩, h₂, hrest⟩ := Except.exists_of_bind_eq_ok hrest
    have hblock := Nat.le_trans (size_le_of_block h₂) (size_le_of_take h₁)
    dsimp only at hrest
    split at hrest
    · cases hrest
      exact hblock
    · exact Nat.le_trans (ih hrest) hblock

/-- **Inflating goes forward**: what is left is no longer than the data. -/
theorem length_le_of_inflate {data rest : List UInt8} {out : Array UInt8}
    (h : inflate data = .ok (out, rest)) : rest.length ≤ data.length := by
  unfold inflate at h
  obtain ⟨⟨out, s⟩, h₁, hrest⟩ := Except.exists_of_bind_eq_ok h
  cases hrest
  have hsize := size_le_of_blocks h₁
  simp only [Bits.size] at hsize
  omega

end Inflate

/-! ## Members -/

namespace Gzip

variable {bs rest : List UInt8}

theorem length_le_of_skip {n : Nat} (h : skip n bs = .ok rest) : rest.length + n ≤ bs.length := by
  unfold skip at h
  split at h
  · cases h
  · cases h
    rw [List.length_drop]
    omega

theorem length_skipText_le (bs : List UInt8) : (skipText bs).length ≤ bs.length := by
  have hdropped : (bs.dropWhile (· != 0)).length ≤ bs.length := (List.dropWhile_suffix _).length_le
  rw [skipText, List.length_drop]
  omega

theorem length_skipUnless_le (absent : Bool) (bs : List UInt8) :
    (if absent then bs else skipText bs).length ≤ bs.length := by
  split
  · exact Nat.le_refl _
  · exact length_skipText_le bs

/-- The file name, the comment and the check of a header, each of which may
be absent. -/
theorem length_le_of_optional {unnamed uncommented unchecked : Bool}
    (h : (let named := if unnamed then bs else skipText bs
      let commented := if uncommented then named else skipText named
      if unchecked then pure commented else skip 2 commented) = .ok rest) :
    rest.length ≤ bs.length := by
  have hparts := Nat.le_trans (length_skipUnless_le uncommented _) (length_skipUnless_le unnamed bs)
  dsimp only at h
  split at h
  · cases h
    exact hparts
  · have hchecked := length_le_of_skip h
    omega

theorem length_lt_of_skipHeader (h : skipHeader bs = .ok rest) : rest.length < bs.length := by
  unfold skipHeader at h
  obtain ⟨-, h⟩ := Except.of_guard_eq_ok h
  obtain ⟨fixed, h₁, h⟩ := Except.exists_of_bind_eq_ok h
  obtain ⟨-, h⟩ := Except.of_guard_eq_ok h
  have hfixed := length_le_of_skip h₁
  rw [List.length_drop] at hfixed
  dsimp only at h
  split at h
  · obtain ⟨extra, hextra, h⟩ := Except.exists_of_bind_eq_ok h
    cases hextra
    have hrest := length_le_of_optional h
    omega
  · obtain ⟨counted, h₂, h⟩ := Except.exists_of_bind_eq_ok h
    obtain ⟨extra, h₃, h⟩ := Except.exists_of_bind_eq_ok h
    have hcounted := length_le_of_skip h₂
    have hextra := length_le_of_skip h₃
    have hrest := length_le_of_optional h
    omega

/-- **A member takes bytes**, whatever it holds. -/
theorem length_lt_of_member {contents : Array UInt8} (h : member bs = .ok (contents, rest)) :
    rest.length < bs.length := by
  unfold member at h
  obtain ⟨deflated, hheader, h⟩ := Except.exists_of_bind_eq_ok h
  have hdeflated := length_lt_of_skipHeader hheader
  cases hinflate : Inflate.inflate deflated with
  | error f =>
    rw [hinflate] at h
    cases f <;> cases h
  | ok p =>
    obtain ⟨out, left⟩ := p
    simp only [hinflate] at h
    obtain ⟨after, hafter, h⟩ := Except.exists_of_bind_eq_ok h
    obtain ⟨-, h⟩ := Except.of_guard_eq_ok h
    obtain ⟨-, h⟩ := Except.of_guard_eq_ok h
    cases h
    have hleft := Inflate.length_le_of_inflate hinflate
    have htrailer := length_le_of_skip hafter
    have hzeros : (after.dropWhile (· == 0)).length ≤ after.length :=
      (List.dropWhile_suffix _).length_le
    omega

/-! ## Corrupt data -/

section

variable {α β : Type} {c : Inflate.Corruption}

/-- A reading that never fails for corrupt data. -/
def NeverCorrupt (x : Except Fault α) : Prop := ∀ c, x ≠ .error (.data c)

theorem NeverCorrupt.bind {x : Except Fault α} {next : α → Except Fault β} (hx : NeverCorrupt x)
    (hnext : ∀ a, x = .ok a → NeverCorrupt (next a)) : NeverCorrupt (x >>= next) := by
  intro c h
  cases x with
  | error f =>
    cases h
    exact hx c rfl
  | ok a => exact hnext a rfl c h

theorem NeverCorrupt.guard {p : Prop} [Decidable p] {f : Fault} {next : β → Except Fault α}
    {x : Except Fault α} (hf : ∀ c, f ≠ .data c) (hx : NeverCorrupt x) :
    NeverCorrupt (if p then throw f >>= next else x) := by
  intro c h
  split at h
  · exact hf c (Except.error.inj h)
  · exact hx c h

theorem neverCorrupt_pure (a : α) : NeverCorrupt (pure a : Except Fault α) := nofun

theorem neverCorrupt_skip (n : Nat) (bs : List UInt8) : NeverCorrupt (skip n bs) := by
  intro c
  unfold skip
  split <;> nofun

theorem neverCorrupt_skipHeader (bs : List UInt8) : NeverCorrupt (skipHeader bs) := by
  unfold skipHeader
  refine .guard nofun (.bind (neverCorrupt_skip _ _) fun fixed _ => .guard nofun ?_)
  have hoptional : ∀ {p : Prop} [Decidable p] (extra : List UInt8),
      NeverCorrupt (if p then pure extra else skip 2 extra) := by
    intro p _ extra
    split
    · exact neverCorrupt_pure extra
    · exact neverCorrupt_skip 2 extra
  dsimp only
  split
  · exact .bind (neverCorrupt_pure _) fun extra _ => hoptional _
  · exact .bind (neverCorrupt_skip _ _) fun counted _ =>
      .bind (neverCorrupt_skip _ _) fun extra _ => hoptional _

end

theorem member_of_corrupt {c : Inflate.Corruption} {deflated : List UInt8}
    (hheader : skipHeader bs = .ok deflated)
    (hinflate : Inflate.inflate deflated = .error (.corrupt c)) :
    member bs = .error (.data c) := by
  simp only [member, hheader, Bind.bind, Except.bind, hinflate]
  rfl

theorem neverCorrupt_member (h : ∀ deflated, skipHeader bs = .ok deflated →
    ∀ c, Inflate.inflate deflated ≠ .error (.corrupt c)) : NeverCorrupt (member bs) := by
  unfold member
  refine .bind (neverCorrupt_skipHeader bs) fun deflated hheader => ?_
  cases hinflate : Inflate.inflate deflated with
  | error f =>
    cases f with
    | ended => exact nofun
    | corrupt c => exact absurd hinflate (h deflated hheader c)
  | ok p =>
    obtain ⟨contents, rest⟩ := p
    exact .bind (neverCorrupt_skip 8 rest) fun after _ =>
      .guard nofun (.guard nofun (neverCorrupt_pure _))

/-- **A member has corrupt data** just when its header is whole and what
follows cannot be inflated. -/
theorem member_eq_data {c : Inflate.Corruption} :
    member bs = .error (.data c) ↔
      ∃ deflated, skipHeader bs = .ok deflated ∧
        Inflate.inflate deflated = .error (.corrupt c) := by
  refine ⟨fun h => ?_, fun ⟨deflated, hheader, hinflate⟩ => member_of_corrupt hheader hinflate⟩
  by_cases hcorrupt : ∃ deflated c', skipHeader bs = .ok deflated ∧
      Inflate.inflate deflated = .error (.corrupt c')
  · obtain ⟨deflated, c', hheader, hinflate⟩ := hcorrupt
    rw [member_of_corrupt hheader hinflate] at h
    cases h
    exact ⟨deflated, hheader, hinflate⟩
  · have hnever : NeverCorrupt (member bs) :=
      neverCorrupt_member fun deflated hheader c' hinflate =>
        hcorrupt ⟨deflated, c', hheader, hinflate⟩
    exact absurd h (hnever c)

/-- **What stands behind intact members** of a file. -/
inductive Behind : List UInt8 → List UInt8 → Prop
  | none (bs : List UInt8) : Behind bs bs
  | member {bs mid rest : List UInt8} {contents : Array UInt8} :
      member bs = .ok (contents, mid) → Behind mid rest → Behind bs rest

/-- The reader of the members comes to the one that is corrupt, by
induction on those before it: each of them leaves less to read, so that
the budget lasts. -/
theorem members_eq_data {c : Inflate.Corruption} {budget : Nat} {out : Array UInt8}
    (hbudget : bs.length < budget) :
    members budget out bs = .error (.data c) ↔
      ∃ rest, Behind bs rest ∧ member rest = .error (.data c) := by
  induction budget generalizing out bs with
  | zero => exact absurd hbudget (Nat.not_lt_zero _)
  | succ budget ih =>
    cases bs with
    | nil =>
      refine ⟨nofun, ?_⟩
      rintro ⟨rest, hbehind, hrest⟩
      cases hbehind with
      | none =>
        obtain ⟨deflated, hheader, -⟩ := member_eq_data.1 hrest
        exact absurd (length_lt_of_skipHeader hheader) (Nat.not_lt_zero _)
      | member hmember _ => exact absurd (length_lt_of_member hmember) (Nat.not_lt_zero _)
    | cons b bs =>
      rw [members]
      · cases hmember : member (b :: bs) with
        | error f =>
          rw [Except.error.injEq]
          refine ⟨fun h => ⟨_, .none _, by rw [hmember, h]⟩, ?_⟩
          rintro ⟨rest, hbehind, hrest⟩
          cases hbehind with
          | none => exact Except.error.inj (hmember.symm.trans hrest)
          | member hfirst _ => rw [hmember] at hfirst; cases hfirst
        | ok p =>
          obtain ⟨contents, mid⟩ := p
          have hlength := length_lt_of_member hmember
          refine (ih (by omega)).trans ⟨?_, ?_⟩
          · rintro ⟨rest, hbehind, hrest⟩
            exact ⟨rest, .member hmember hbehind, hrest⟩
          · rintro ⟨rest, hbehind, hrest⟩
            cases hbehind with
            | none => rw [hmember] at hrest; cases hrest
            | member hfirst hlater =>
              rw [hmember] at hfirst
              cases hfirst
              exact ⟨rest, hlater, hrest⟩
      · nofun

/-- **A file has corrupt data** just when the member behind some intact
ones has. -/
theorem decompress_eq_data {c : Inflate.Corruption} :
    decompress bs = .error (.data c) ↔ ∃ rest, Behind bs rest ∧ member rest = .error (.data c) := by
  have hmembers := @members_eq_data bs c (bs.length + 1) #[] (Nat.lt_succ_self _)
  rw [← hmembers, decompress]
  cases members (bs.length + 1) #[] bs with
  | error f => rw [Except.map, Except.error.injEq, Except.error.injEq]
  | ok out => exact ⟨nofun, nofun⟩

end Gzip

end DeliveryAudit
