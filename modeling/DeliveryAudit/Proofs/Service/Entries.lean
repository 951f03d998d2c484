import DeliveryAudit.Value
/-!
# Entries by name

The names in a mapping that comes from a service are strings, and strings
are the same values only if they are equal. So an entry is looked up among
entries with names as in a list of pairs.
-/

namespace DeliveryAudit

namespace Value

variable {name : String} {v : Value} {entries : List (Value × Value)}

theorem same_ofString (s t : String) : (ofString s).same (ofString t) = decide (s = t) := by
  have hsame : (ofString s).same (ofString t) = (Text.ofString s == Text.ofString t) := by
    simp [ofString, same, sameLeaf]
  rw [hsame]
  by_cases h : s = t
  · simp [h]
  · have hne : Text.ofString s ≠ Text.ofString t := fun heq => h (Text.ofString_injective heq)
    simp [h, hne]

@[simp] theorem entry?_nil : entry? name [] = none := rfl

/-- An entry is looked up among the others unless the first has its
name. -/
@[simp] theorem entry?_cons (n : String) :
    entry? name ((ofString n, v) :: entries) =
      if n = name then some v else entry? name entries := by
  by_cases h : n = name
  · rw [if_pos h, entry?, List.find?_cons_of_pos (by simp [same_ofString, h])]
    rfl
  · rw [if_neg h, entry?, List.find?_cons_of_neg (by simp [same_ofString, h])]
    rfl

theorem isTruthy_ofString (s : String) : (ofString s).isTruthy = decide (s ≠ "") := by
  by_cases h : s = ""
  · simp [h, ofString, Text.ofString, isTruthy]
  · have hne : s.toList ≠ [] := fun heq => h (String.toList_eq_nil_iff.1 heq)
    simp [h, ofString, Text.ofString, isTruthy, hne]

end Value

end DeliveryAudit
