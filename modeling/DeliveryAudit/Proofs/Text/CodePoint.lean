import DeliveryAudit.Text.CodePoint
/-!
# Characters by number

The number of a character is that of no surrogate and below `0x110000`,
and it names the character.
-/

namespace DeliveryAudit

/-- The numbers of characters leave the surrogates out. -/
theorem toNat_char (c : Char) : c.toNat < 0xD800 ∨ 0xDFFF < c.toNat ∧ c.toNat < 0x110000 := by
  have h : c.val.toNat.isValidChar := c.valid
  simp only [Nat.isValidChar] at h
  change c.toNat < _ ∨ _ < c.toNat ∧ c.toNat < _ at h
  omega

/-- The number of a character names it. -/
theorem CodePoint.ofNat?_toNat (c : Char) : CodePoint.ofNat? c.toNat = some (.scalar c) := by
  have h : c.toNat.isValidChar := c.valid
  rw [CodePoint.ofNat?, dif_pos h]
  congr 2

namespace Text

theorem length_ofString (s : String) : (ofString s).length = s.length := by
  rw [ofString, List.length_map, String.length_toList]

end Text

end DeliveryAudit
