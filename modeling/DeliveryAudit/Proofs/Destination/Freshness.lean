import DeliveryAudit.Proofs.Destination.Pieces
import DeliveryAudit.Proofs.Destination.Scope
/-!
# A new reader has not been read before

Only a handle that is not the owner of a traversal learns that the
destination has been read before. The traversal itself does not say so
(`Reader.neverAgain_traverse`). A new reader that is read through its only
handle therefore never says so, in whatever pieces its lines are pulled
(`Session.pieces_neverAgain`).
-/

namespace DeliveryAudit

/-- **A stretch that does not end with a second traversal.** -/
def Stretch.NeverAgain (s : Stretch) : Prop := ∀ reader, s.fault ≠ some (.again reader)

/-- **No traversal is a second one**, whatever the client answers. -/
theorem Reader.neverAgain_traverse [Bounds] (r : Reader) : r.traverse.NeverAgain :=
  r.inScope_traverse.fault

namespace Session

variable {r : Reader} {s : Session}

/-- **A session with one handle** that has been pulled, if any has. -/
structure OnlyHandle (r : Reader) (s : Session) : Prop where
  reader : s.reader = r
  owner : s.owner = none ∨ s.owner = some 0
  fault : s.owner = some 0 → ∀ reader, s.fault ≠ some (.again reader)

theorem onlyHandle_obtain (r : Reader) : OnlyHandle r (start r).obtain.2 where
  reader := rfl
  owner := .inl rfl
  fault := nofun

variable [Bounds]

/-- The first pull makes the handle the owner, and a later one finds it
so. -/
theorem OnlyHandle.own (hs : OnlyHandle r s) :
    OnlyHandle r (s.own 0) ∧ (s.own 0).owner = some 0 := by
  unfold Session.own
  rcases hs.owner with howner | howner
  · simp only [howner]
    exact ⟨⟨hs.reader, .inr rfl, fun _ => s.reader.neverAgain_traverse⟩, trivial⟩
  · simp only [howner]
    exact ⟨hs, trivial⟩

/-- **A pull through the only handle** brings no complaint of a second
traversal. -/
theorem OnlyHandle.pull (hs : OnlyHandle r s) (n : Nat) :
    (∀ reader, (s.pull 0 n).1.fault ≠ some (.again reader)) ∧ OnlyHandle r (s.pull 0 n).2 := by
  unfold Session.pull
  split
  · exact ⟨fun _ => nofun, hs⟩
  · obtain ⟨hown, howner⟩ := hs.own
    have hpull : (s.own 0).pullThrough 0 n = (s.own 0).pullOwned n := by
      rw [pullThrough, howner, if_pos (by rfl)]
    obtain ⟨-, -, -, hreader, hkept, -, hfault⟩ := pullOwned_eq (s.own 0) n
    rw [hpull]
    have hafter : ((s.own 0).pullOwned n).2.owner = some 0 := hkept.trans howner
    -- The fault is kept for the pull that reaches the end, which brings it.
    rcases hfault with ⟨hnone, hsame, -⟩ | ⟨hbrought, hnone, -⟩
    · refine ⟨fun reader h => ?_, hreader.trans hown.reader, .inr hafter, fun _ => ?_⟩
      · rw [hnone] at h
        cases h
      · rw [hsame]
        exact hown.fault howner
    · refine ⟨fun reader => ?_, hreader.trans hown.reader, .inr hafter, fun _ reader h => ?_⟩
      · rw [hbrought]
        exact hown.fault howner reader
      · rw [hnone] at h
        cases h

/-- **All pulls through the only handle**, by induction on their number. -/
theorem pieces_neverAgain (r : Reader) (sizes : Nat → Nat) (i : Nat) :
    (∀ p ∈ (pullPieces r sizes i).1, ∀ reader, p.fault ≠ some (.again reader)) ∧
      OnlyHandle r (pullPieces r sizes i).2 := by
  induction i with
  | zero => exact ⟨fun p hp => absurd hp List.not_mem_nil, onlyHandle_obtain r⟩
  | succ i ih =>
    obtain ⟨hbrought, hs⟩ := ih
    obtain ⟨hpull, hafter⟩ := hs.pull (sizes i)
    rw [pullPieces_succ]
    refine ⟨fun p hp => ?_, hafter⟩
    rcases List.mem_append.1 hp with hp | hp
    · exact hbrought p hp
    · rw [List.mem_singleton.1 hp]
      exact hpull

end Session

end DeliveryAudit
