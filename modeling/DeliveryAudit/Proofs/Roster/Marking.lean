import DeliveryAudit.Roster
import Mathlib.Data.List.Induction
import Mathlib.Data.List.Nodup
import Mathlib.Data.List.Perm.Subperm
/-!
# Marking the ids of a roster

A roster holds the ids that it was made of, each where it first occurs
(`ids_ofIds`), and marking never changes them (`ids_mark`). After any
list of ids has been marked, an id is flagged just when it is on the
roster and has been marked or was flagged before (`isFound_foldl_mark`).
So the flagged ids are no more than the marks (`foundCount_marks_le`).
-/

namespace DeliveryAudit

namespace Roster

variable {r : Roster} {id x : Text} {ids marks : List Text}

/-! ## The ids -/

theorem mem_flags_iff : id ∈ r.flags ↔ id ∈ r.ids.toList :=
  (r.mem_flags id).trans Array.mem_toList_iff.symm

theorem ids_insert :
    (r.insert id).ids.toList =
      if id ∈ r.ids.toList then r.ids.toList else r.ids.toList ++ [id] := by
  unfold insert
  by_cases h : id ∈ r.flags
  · rw [dif_pos h, if_pos (mem_flags_iff.1 h)]
  · rw [dif_neg h, if_neg fun hm => h (mem_flags_iff.2 hm), Array.toList_push]

/-- **A roster holds its ids once**, in the order in which they first
occur. -/
theorem ids_ofIds (ids : List Text) : (ofIds ids).ids.toList = ids.eraseDups := by
  -- The last id of the list is the last one inserted.
  induction ids using List.reverseRecOn with
  | nil => rfl
  | append_singleton ids id ih =>
    have hlast : ofIds (ids ++ [id]) = (ofIds ids).insert id := by
      rw [ofIds, List.foldl_append]
      rfl
    rw [hlast, ids_insert, ih, List.eraseDups_append]
    by_cases h : id ∈ ids
    · have hnone : [id].removeAll ids = [] := by simp [List.removeAll, h]
      rw [if_pos (List.mem_eraseDups.2 h), hnone, List.eraseDups_nil, List.append_nil]
    · have hone : [id].removeAll ids = [id] := by simp [List.removeAll, h]
      rw [if_neg fun hm => h (List.mem_eraseDups.1 hm), hone]
      rfl

@[simp] theorem ids_mark : (r.mark id).ids = r.ids := by
  unfold mark
  split
  · rfl
  · rfl

theorem ids_foldl_mark (marks : List Text) (r : Roster) :
    (marks.foldl mark r).ids = r.ids := by
  induction marks generalizing r with
  | nil => rfl
  | cons id marks ih => rw [List.foldl_cons, ih, ids_mark]

/-! ## The flags -/

/-- A new roster has no flags set. -/
theorem isFound_ofIds (ids : List Text) (x : Text) : (ofIds ids).isFound x = false := by
  suffices h : ∀ r : Roster, r.isFound x = false → (ids.foldl insert r).isFound x = false from
    h empty Std.HashMap.getD_empty
  induction ids with
  | nil => exact fun r h => h
  | cons id ids ih =>
    intro r h
    refine ih _ ?_
    unfold insert
    split
    · exact h
    · simp only [isFound, Std.HashMap.getD_insert] at h ⊢
      rw [h, ite_self]

/-- **Marking an id** flags it, if it is on the roster, and nothing
else. -/
theorem isFound_mark :
    (r.mark id).isFound x = true ↔ r.isFound x = true ∨ (x ∈ r.ids.toList ∧ x = id) := by
  unfold mark
  by_cases h : id ∈ r.flags
  · rw [dif_pos h]
    simp only [isFound, Std.HashMap.getD_insert, beq_iff_eq]
    by_cases hx : id = x
    · rw [if_pos hx]
      exact ⟨fun _ => .inr ⟨hx ▸ mem_flags_iff.1 h, hx.symm⟩, fun _ => rfl⟩
    · rw [if_neg hx]
      exact ⟨.inl, fun h => h.resolve_right fun hm => hx hm.2.symm⟩
  · rw [dif_neg h]
    refine ⟨.inl, fun hf => hf.resolve_right ?_⟩
    rintro ⟨hmem, rfl⟩
    exact h (mem_flags_iff.2 hmem)

/-- **Marking a list of ids** flags those of them that are on the
roster. -/
theorem isFound_foldl_mark (marks : List Text) (r : Roster) (x : Text) :
    (marks.foldl mark r).isFound x = true ↔
      r.isFound x = true ∨ (x ∈ r.ids.toList ∧ x ∈ marks) := by
  induction marks generalizing r with
  | nil => simp
  | cons id marks ih =>
    rw [List.foldl_cons, ih, isFound_mark, ids_mark, List.mem_cons, or_assoc, ← and_or_left]

/-- The flags of a new roster after some marks. -/
theorem isFound_marks (ids marks : List Text) (x : Text) :
    (marks.foldl mark (ofIds ids)).isFound x = true ↔ x ∈ ids ∧ x ∈ marks := by
  rw [isFound_foldl_mark, isFound_ofIds, ids_ofIds, List.mem_eraseDups]
  exact or_iff_right Bool.false_ne_true

/-- Flags that are set stay set. -/
theorem isFound_of_isFound (marks : List Text) (h : r.isFound x = true) :
    (marks.foldl mark r).isFound x = true :=
  (isFound_foldl_mark marks r x).2 (.inl h)

/-! ## Found and missing ids -/

/-- **Every id is found or missing.** -/
theorem foundCount_add_length_missing (r : Roster) :
    r.foundCount + r.missing.length = r.size := by
  rw [foundCount, missing, ← List.countP_eq_length_filter, size, ← Array.length_toList,
    List.length_eq_countP_add_countP r.isFound]
  simp only [Bool.not_eq_true, Bool.decide_eq_false]

/-- The found ids of a new roster are those that have been marked. -/
theorem foundCount_marks (ids marks : List Text) :
    (marks.foldl mark (ofIds ids)).foundCount = ids.eraseDups.countP (· ∈ marks) := by
  rw [foundCount, ids_foldl_mark, ids_ofIds]
  refine List.countP_congr fun x hx => ?_
  rw [isFound_marks, decide_eq_true_iff]
  exact and_iff_right (List.mem_eraseDups.1 hx)

/-- **The missing ids of a new roster** are those that have not been
marked, in order. -/
theorem missing_marks (ids marks : List Text) :
    (marks.foldl mark (ofIds ids)).missing = ids.eraseDups.filter (· ∉ marks) := by
  rw [missing, ids_foldl_mark, ids_ofIds]
  refine List.filter_congr fun x hx => ?_
  have hfound := isFound_marks ids marks x
  rw [and_iff_right (List.mem_eraseDups.1 hx)] at hfound
  rw [Bool.eq_iff_iff, Bool.not_eq_true', decide_eq_true_iff, ← hfound, Bool.not_eq_true]

/-- **No more ids are found than marks are made**, since every id is on
the roster once. -/
theorem foundCount_marks_le (ids marks : List Text) :
    (marks.foldl mark (ofIds ids)).foundCount ≤ marks.length := by
  rw [foundCount, List.countP_eq_length_filter]
  refine List.Nodup.length_le_of_subset ((Roster.nodup _).filter _) fun x hx => ?_
  exact ((isFound_marks ids marks x).1 (List.mem_filter.1 hx).2).2

end Roster

end DeliveryAudit
