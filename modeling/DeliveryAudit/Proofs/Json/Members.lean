import DeliveryAudit.Json.Syntax
import Mathlib.Data.List.Induction
import Mathlib.Data.List.Nodup
/-!
# Members and their duplicates

A name may be written more than once in an object. Among the members that
count, it stands once (`nodup_names_latest`), where it was written first, and
with the value that was written last (`LastOf`). So the first member of a
kind has the first name of that kind as written, and the last value of that
name (`find?_latest_eq_some_iff`).
-/

namespace DeliveryAudit.Json

variable {written ms : List (Text × Json)} {name k : Text} {v w : Json} {p : Text → Bool}

/-! ## Members as written -/

/-- **The last value** that is written for a name. -/
def LastOf (written : List (Text × Json)) (name : Text) (v : Json) : Prop :=
  ∃ before after, written = before ++ (name, v) :: after ∧ ∀ m ∈ after, m.1 ≠ name

/-- **The first name** of a kind that is written. -/
def FirstOf (p : Text → Bool) (written : List (Text × Json)) (name : Text) : Prop :=
  ∃ before v after, written = before ++ (name, v) :: after ∧ p name = true ∧
    ∀ m ∈ before, p m.1 = false

theorem lastOf_iff : LastOf written name v ↔
    written.reverse.find? (fun m => m.1 = name) = some (name, v) := by
  rw [List.find?_eq_some_iff_append]
  constructor
  · rintro ⟨before, after, rfl, hafter⟩
    refine ⟨decide_eq_true rfl, after.reverse, before.reverse, by simp, fun m hm => ?_⟩
    simpa using hafter m (List.mem_reverse.1 hm)
  · rintro ⟨-, after, before, hwritten, hafter⟩
    refine ⟨before.reverse, after.reverse, ?_, fun m hm => ?_⟩
    · have := congrArg List.reverse hwritten
      simpa using this
    · simpa using hafter m (List.mem_reverse.1 hm)

theorem firstOf_iff : FirstOf p written name ↔
    ∃ v, written.find? (fun m => p m.1) = some (name, v) := by
  simp only [List.find?_eq_some_iff_append]
  constructor
  · rintro ⟨before, v, after, hwritten, hname, hbefore⟩
    exact ⟨v, hname, before, after, hwritten, fun m hm => by simp [hbefore m hm]⟩
  · rintro ⟨v, hname, before, after, hwritten, hbefore⟩
    exact ⟨before, v, after, hwritten, hname, fun m hm => by simpa using hbefore m hm⟩

/-- A name that is written has a last value. -/
theorem exists_find?_reverse (h : ∃ v, (name, v) ∈ written) :
    ∃ v, written.reverse.find? (fun m => m.1 = name) = some (name, v) := by
  obtain ⟨v, hv⟩ := h
  cases hfind : written.reverse.find? (fun m => m.1 = name) with
  | none =>
    have hnone := List.find?_eq_none.1 hfind (name, v) (List.mem_reverse.2 hv)
    exact absurd (decide_eq_true rfl) hnone
  | some m =>
    have hname : m.1 = name := by simpa using List.find?_some hfind
    exact ⟨m.2, by rw [← hname]⟩

/-! ## Members that count -/

theorem latest_concat (written : List (Text × Json)) (k : Text) (w : Json) :
    latest (written ++ [(k, w)]) = setMember k w (latest written) := by
  simp [latest, List.foldl_append]

theorem member?_eq_find? (name : Text) (ms : List (Text × Json)) :
    member? name ms = (ms.find? fun m => m.1 = name).map Prod.snd := by
  induction ms with
  | nil => rfl
  | cons m ms ih =>
    obtain ⟨k, v⟩ := m
    by_cases h : k = name
    · rw [member?, if_pos h, List.find?_cons_of_pos (by simpa using h)]
      rfl
    · rw [member?, if_neg h, List.find?_cons_of_neg (by simpa using h), ih]

/-- **Setting a member** changes its value where it stands, and puts it last
if it is not there. -/
theorem find?_setMember (p : Text → Bool) (k : Text) (w : Json) (ms : List (Text × Json)) :
    (setMember k w ms).find? (fun m => p m.1) =
      match ms.find? (fun m => p m.1) with
      | some (name, v) => some (name, if name = k then w else v)
      | none => if p k then some (k, w) else none := by
  induction ms with
  | nil => by_cases hk : p k = true <;> simp [setMember, hk]
  | cons m ms ih =>
    obtain ⟨k', v'⟩ := m
    have hskip : ∀ (v : Json) (rest : List (Text × Json)), ¬ p k' = true →
        ((k', v) :: rest).find? (fun m => p m.1) = rest.find? fun m => p m.1 :=
      fun v rest hp => List.find?_cons_of_neg (p := fun m : Text × Json => p m.1) hp
    by_cases hk : k' = k
    · subst hk
      rw [setMember, if_pos rfl]
      by_cases hp : p k' = true
      · simp [hp]
      · rw [hskip w ms hp, hskip v' ms hp]
        cases hms : ms.find? (fun m => p m.1) with
        | none => simp [hp]
        | some m =>
          have hpm : p m.1 = true := List.find?_some (p := fun m : Text × Json => p m.1) hms
          have hne : m.1 ≠ k' := by
            rintro rfl
            exact hp hpm
          simp [hne]
    · rw [setMember, if_neg hk]
      by_cases hp : p k' = true
      · simp [hp, hk]
      · rw [hskip v' _ hp, hskip v' ms hp, ih]

/-- **The first member of a kind** has the first name of the kind that was
written, and the value that was written last for it. By induction on the
members as written, the last one of which is set last. -/
theorem find?_latest (p : Text → Bool) (written : List (Text × Json)) :
    (latest written).find? (fun m => p m.1) =
      (written.find? fun m => p m.1).bind fun m => written.reverse.find? (fun n => n.1 = m.1) := by
  induction written using List.reverseRecOn with
  | nil => rfl
  | append_singleton written m ih =>
    obtain ⟨k, w⟩ := m
    rw [latest_concat, find?_setMember, ih, List.find?_append, List.reverse_append]
    cases hfind : written.find? (fun m => p m.1) with
    | none => by_cases hp : p k = true <;> simp [hp]
    | some m =>
      obtain ⟨name, v₀⟩ := m
      obtain ⟨v, hlast⟩ := exists_find?_reverse ⟨v₀, List.mem_of_find?_eq_some hfind⟩
      simp only [Option.bind_some, Option.some_or, hlast]
      by_cases hname : name = k
      · subst hname
        simp
      · have hne : ¬ k = name := fun h => hname h.symm
        simp [hname, hne, hlast]

theorem find?_latest_eq_some_iff : (latest written).find? (fun m => p m.1) = some (name, v) ↔
    FirstOf p written name ∧ LastOf written name v := by
  rw [find?_latest, firstOf_iff, lastOf_iff, Option.bind_eq_some_iff]
  constructor
  · rintro ⟨⟨k, v₀⟩, hfirst, hlast⟩
    have hname : name = k := by simpa using List.find?_some hlast
    subst hname
    exact ⟨⟨v₀, hfirst⟩, hlast⟩
  · rintro ⟨⟨v₀, hfirst⟩, hlast⟩
    exact ⟨(name, v₀), hfirst, hlast⟩

/-- **A name has the value that was written last for it.** -/
theorem member?_latest_eq_some_iff :
    member? name (latest written) = some v ↔ LastOf written name v := by
  rw [member?_eq_find?, find?_latest (fun k => k = name), lastOf_iff]
  cases hfind : written.find? (fun m => m.1 = name) with
  | none =>
    -- The name is not written at all.
    have hnone : written.reverse.find? (fun m => m.1 = name) = none := by
      rw [List.find?_eq_none] at hfind ⊢
      exact fun m hm => hfind m (List.mem_reverse.1 hm)
    rw [hnone]
    exact iff_of_false nofun nofun
  | some m =>
    have hname : m.1 = name := by simpa using List.find?_some hfind
    obtain ⟨v', hlast⟩ := exists_find?_reverse ⟨m.2, List.mem_of_find?_eq_some hfind⟩
    rw [Option.bind_some, ← hname, hlast]
    simp

theorem map_fst_setMember (k : Text) (w : Json) (ms : List (Text × Json)) :
    (setMember k w ms).map Prod.fst =
      if k ∈ ms.map Prod.fst then ms.map Prod.fst else ms.map Prod.fst ++ [k] := by
  induction ms with
  | nil => rfl
  | cons m ms ih =>
    obtain ⟨k', v'⟩ := m
    by_cases hk : k' = k
    · simp [setMember, hk]
    · have hne : ¬ k = k' := fun h => hk h.symm
      rw [setMember, if_neg hk, List.map_cons, ih]
      by_cases hmem : k ∈ ms.map Prod.fst
      · rw [if_pos hmem, if_pos (by simpa using Or.inr hmem), List.map_cons]
      · rw [if_neg hmem, if_neg (by simpa [hne] using hmem), List.map_cons, List.cons_append]

/-- **Every name counts once.** -/
theorem nodup_names_latest (written : List (Text × Json)) :
    ((latest written).map Prod.fst).Nodup := by
  induction written using List.reverseRecOn with
  | nil => exact List.nodup_nil
  | append_singleton written m ih =>
    obtain ⟨k, w⟩ := m
    rw [latest_concat, map_fst_setMember]
    by_cases hk : k ∈ (latest written).map Prod.fst
    · rw [if_pos hk]
      exact ih
    · rw [if_neg hk]
      exact ih.append (List.nodup_singleton k) (by simpa using hk)

/-! ## Members of distinct names -/

theorem setMember_of_not_mem (h : k ∉ ms.map Prod.fst) : setMember k w ms = ms ++ [(k, w)] := by
  induction ms with
  | nil => rfl
  | cons m ms ih =>
    obtain ⟨k', v'⟩ := m
    simp only [List.map_cons, List.mem_cons, not_or] at h
    have hne : ¬ k' = k := fun hk => h.1 hk.symm
    rw [setMember, if_neg hne, ih h.2, List.cons_append]

/-- **Members of distinct names** all count, where they stand. -/
theorem latest_of_nodup (h : (ms.map Prod.fst).Nodup) : latest ms = ms := by
  induction ms using List.reverseRecOn with
  | nil => rfl
  | append_singleton ms m ih =>
    obtain ⟨k, w⟩ := m
    rw [List.map_append, List.nodup_append] at h
    obtain ⟨hms, -, hnew⟩ := h
    have hk : k ∉ ms.map Prod.fst := fun hmem => hnew k hmem k (by simp) rfl
    rw [latest_concat, ih hms, setMember_of_not_mem hk]

theorem lastOf_iff_mem (h : (ms.map Prod.fst).Nodup) : LastOf ms name v ↔ (name, v) ∈ ms := by
  constructor
  · rintro ⟨before, after, rfl, -⟩
    simp
  · intro hmem
    obtain ⟨before, after, rfl⟩ := List.append_of_mem hmem
    rw [List.map_append, List.map_cons, List.nodup_append, List.nodup_cons] at h
    refine ⟨before, after, rfl, fun m hm heq => h.2.1.1 ?_⟩
    exact List.mem_map.2 ⟨m, hm, heq⟩

theorem member?_eq_some_iff (h : (ms.map Prod.fst).Nodup) :
    member? name ms = some v ↔ (name, v) ∈ ms := by
  have hlatest : member? name (latest ms) = some v ↔ LastOf ms name v :=
    member?_latest_eq_some_iff
  rwa [latest_of_nodup h, lastOf_iff_mem h] at hlatest

theorem find?_eq_some_iff (h : (ms.map Prod.fst).Nodup) :
    ms.find? (fun m => p m.1) = some (name, v) ↔ FirstOf p ms name ∧ (name, v) ∈ ms := by
  have hlatest : (latest ms).find? (fun m => p m.1) = some (name, v) ↔
      FirstOf p ms name ∧ LastOf ms name v := find?_latest_eq_some_iff
  rwa [latest_of_nodup h, lastOf_iff_mem h] at hlatest

end DeliveryAudit.Json
