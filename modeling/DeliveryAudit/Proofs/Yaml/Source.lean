import DeliveryAudit.Proofs.Text.Validity
import DeliveryAudit.Yaml.Source
/-!
# Files that cannot be decoded

A file is decoded block by block, and the bytes that start a character at the
end of a block are kept for the next one. Decoding fails only if the bytes of
the file are no text (`Source.undecodable_of_ofBytes`), wherever the blocks are
cut.
-/

namespace DeliveryAudit.Yaml.Source

variable {bytes : List UInt8} {d next : Decoding} {decoded : List Char}

/-- **A decoding of a file**: the bytes that are kept and those still to come
follow a text. -/
def Decoding.Of (bytes : List UInt8) (d : Decoding) : Prop :=
  ∃ cs, bytes = Utf8.encode cs ++ (d.kept ++ d.rest)

/-- A block is empty only behind the last byte. -/
theorem rest_of_isEmpty_take (h : (d.rest.take d.nextSize).isEmpty = true) : d.rest = [] := by
  have hsize : 0 < d.nextSize := Nat.lt_of_lt_of_le (by decide) (Nat.le_max_left _ _)
  rw [List.isEmpty_iff, List.take_eq_nil_iff] at h
  exact h.resolve_left (Nat.ne_of_gt hsize)

/-- **A block that is decoded** leaves the start of a character at its end. -/
theorem Decoding.Of.step (h : d.Of bytes) {fault : Option Utf8.Fault}
    (hdecode : Utf8.decodeUntil (d.kept ++ d.rest.take d.nextSize) = (decoded, fault))
    (hkept : next.kept =
      (fault.map fun f => (d.kept ++ d.rest.take d.nextSize).drop f.first).getD [])
    (hrest : next.rest = d.rest.drop (d.rest.take d.nextSize).length) : next.Of bytes := by
  obtain ⟨before, rfl⟩ := h
  have hblock : d.kept ++ d.rest = d.kept ++ d.rest.take d.nextSize ++ next.rest := by
    rw [hrest, List.append_assoc, List.prefix_iff_eq_append.1 (List.take_prefix _ _)]
  rw [hblock]
  generalize d.kept ++ d.rest.take d.nextSize = block at hdecode hkept
  cases fault with
  | none =>
    obtain ⟨ds, -, rfl⟩ := Utf8.eq_encode_of_decodeFrom hdecode
    refine ⟨before ++ ds, ?_⟩
    rw [hkept, Utf8.encode_append, List.append_assoc]
    rfl
  | some f =>
    obtain ⟨ds, more, rfl, hfirst, -⟩ := Utf8.eq_append_of_decodeFrom hdecode
    rw [Nat.zero_add] at hfirst
    refine ⟨before ++ ds, ?_⟩
    rw [hkept, Option.map_some, Option.getD_some, hfirst, List.drop_left, Utf8.encode_append,
      List.append_assoc, List.append_assoc]

/-- **What cannot be decoded in a block** cannot be decoded in the file, unless
the block ends inside a character. -/
theorem Decoding.Of.ne_encode (h : d.Of bytes) {f : Utf8.Fault}
    (hdecode : Utf8.decodeUntil (d.kept ++ d.rest.take d.nextSize) = (decoded, some f))
    (hf : (d.rest.take d.nextSize).isEmpty = true ∨ f.reason ≠ .ended) (cs : List Char) :
    bytes ≠ Utf8.encode cs := by
  obtain ⟨before, rfl⟩ := h
  obtain ⟨ds, more, hblock, -, hstep⟩ := Utf8.eq_append_of_decodeFrom hdecode
  -- What follows the block cannot mend it: nothing does, or the step has not come so far.
  have hstep : Utf8.step f.lead (more ++ d.rest.drop d.nextSize) = .bad f.count f.reason := by
    rcases hf with hend | hreason
    · rw [rest_of_isEmpty_take hend, List.drop_nil, List.append_nil]
      exact hstep
    · exact Utf8.step_append hstep hreason _
  have hbytes : d.kept ++ d.rest =
      Utf8.encode ds ++ f.lead :: (more ++ d.rest.drop d.nextSize) := by
    rw [← List.cons_append, ← List.append_assoc, ← hblock, List.append_assoc,
      List.take_append_drop]
  rw [hbytes, ← List.append_assoc, ← Utf8.encode_append]
  exact Utf8.ne_encode_of_step hstep _ cs

theorem ne_encode_of_decodeBlocks (budget : Nat) (h : d.Of bytes) {f : Utf8.Fault}
    (hf : (decodeBlocks budget d).2 = some f) (cs : List Char) : bytes ≠ Utf8.encode cs := by
  induction budget generalizing d with
  | zero => cases hf
  | succ budget ih =>
    rw [decodeBlocks] at hf
    rcases hdecode : Utf8.decodeUntil (d.kept ++ d.rest.take d.nextSize) with ⟨decoded, fault⟩
    simp only [hdecode] at hf
    split at hf
    · next g hg =>
      cases hf
      obtain ⟨rfl, hmet⟩ := Option.filter_eq_some_iff.1 hg
      rw [Bool.or_eq_true, bne_iff_ne] at hmet
      exact h.ne_encode hdecode hmet cs
    · split at hf
      · cases hf
      · exact ih (h.step hdecode rfl rfl) hf

/-- **The fault of a file** is a character that is not accepted, or its bytes
are no text. -/
theorem undecodable_of_ofBytes {f : Fault} (hf : (ofBytes bytes).fault = some f) :
    (∃ code position, f = .character code position) ∨
      ∃ u, f = .undecodable u ∧ ∀ cs, bytes ≠ Utf8.encode cs := by
  rw [ofBytes] at hf
  rcases hblocks : decodeBlocks (bytes.length / byteBlock + 2) ⟨bytes, [], false, 0, 0, [], 0⟩
    with ⟨blocks, undecodable⟩
  simp only [hblocks] at hf
  split at hf
  · cases hf
    exact .inl ⟨_, _, rfl⟩
  · obtain ⟨u, rfl, rfl⟩ := Option.map_eq_some_iff.1 hf
    have hstart : Decoding.Of bytes ⟨bytes, [], false, 0, 0, [], 0⟩ := ⟨[], rfl⟩
    exact .inr ⟨u, rfl, ne_encode_of_decodeBlocks _ hstart (congrArg Prod.snd hblocks)⟩

end DeliveryAudit.Yaml.Source
