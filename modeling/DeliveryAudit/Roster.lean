import DeliveryAudit.Number.Decimal
import DeliveryAudit.Text.CodePoint
import Std.Data.HashMap
/-!
# The roster of expected records

A roster holds every record id that a run has produced, in order, each
once, and flags the ids that have been found. Flags are only ever set,
and an id that is not on the roster changes nothing.
-/

namespace DeliveryAudit

/-- The expected record ids and their flags. -/
structure Roster where
  ids : Array Text
  flags : Std.HashMap Text Bool
  nodup : ids.toList.Nodup
  mem_flags : ∀ id, id ∈ flags ↔ id ∈ ids

namespace Roster

/-- The roster without ids. -/
def empty : Roster := ⟨#[], ∅, by simp, by simp⟩

instance : Inhabited Roster := ⟨empty⟩

/-- The roster with one more id at its end, unless it is there. -/
def insert (r : Roster) (id : Text) : Roster :=
  if h : id ∈ r.flags then
    r
  else
    { ids := r.ids.push id
      flags := r.flags.insert id false
      nodup := by
        have hid : id ∉ r.ids.toList := fun hm => h ((r.mem_flags id).2 (Array.mem_toList_iff.1 hm))
        rw [Array.toList_push, List.nodup_append]
        refine ⟨r.nodup, by simp, ?_⟩
        intro a ha b hb
        rw [List.mem_singleton] at hb
        subst hb
        exact fun hab => hid (hab ▸ ha)
      mem_flags := by
        intro x
        have := r.mem_flags x
        simp only [Std.HashMap.mem_insert, Array.mem_push, beq_iff_eq, this]
        constructor
        · rintro (rfl | hx)
          · exact Or.inr rfl
          · exact Or.inl hx
        · rintro (hx | rfl)
          · exact Or.inr hx
          · exact Or.inl rfl }

/-- The roster of a list of ids: each once, where it first occurs. -/
def ofIds (ids : List Text) : Roster := ids.foldl insert empty

/-- How many ids are expected. -/
def size (r : Roster) : Nat := r.ids.size

/-- Whether an id is expected. -/
def contains (r : Roster) (id : Text) : Bool := r.flags.contains id

/-- Whether an id has been found. -/
def isFound (r : Roster) (id : Text) : Bool := r.flags.getD id false

/-- The roster with an id flagged, if the id is expected. -/
def mark (r : Roster) (id : Text) : Roster :=
  if h : id ∈ r.flags then
    { ids := r.ids
      flags := r.flags.insert id true
      nodup := r.nodup
      mem_flags := by
        intro x
        have := r.mem_flags x
        simp only [Std.HashMap.mem_insert, beq_iff_eq]
        constructor
        · rintro (rfl | hx)
          · exact (r.mem_flags _).1 h
          · exact this.1 hx
        · exact fun hx => Or.inr (this.2 hx) }
  else
    r

/-- How many ids have been found. -/
def foundCount (r : Roster) : Nat := r.ids.toList.countP r.isFound

/-- The ids that have not been found, in order. -/
def missing (r : Roster) : List Text := r.ids.toList.filter fun id => !r.isFound id

/-! ## Rosters of counters -/

/-- Why there is no roster for a range of counters. -/
inductive Fault where
  | notPositive (count : Int)
  | tooLong
deriving DecidableEq

/-- The wording of a fault. -/
def Fault.message : Fault → String
  | notPositive count =>
    match Number.decimal? count with
    | some s => "Record count must be positive, got " ++ s
    | none => Number.writingLimitText
  | tooLong => Number.writingLimitText

/-- The id of the record with this counter. -/
def idOf? (counter : Int) : Option Text := (Number.decimal? counter).map Text.ofString

/-- The first counter of a run, where none is given. -/
def usualBase : Int := 10000000

/-- The roster of `count` counters from `base` on. -/
def ofRange (count base : Int) : Except Fault Roster :=
  if count < 1 then
    .error (.notPositive count)
  else
    match (List.range count.toNat).mapM fun (i : Nat) => idOf? (base + i) with
    | some ids => .ok (ofIds ids)
    | none => .error .tooLong

end Roster

end DeliveryAudit
