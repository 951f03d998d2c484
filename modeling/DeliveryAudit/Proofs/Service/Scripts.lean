import DeliveryAudit.Proofs.Retry.Settling
/-!
# The scripts of a client

All that a client is asked is answered by its scripts: one for the
listings, one for the pages of log events, and one for every object.
Whatever answers of an object are left to the client, the other scripts
stay as they are, and that of the object goes on with these.
-/

namespace DeliveryAudit

namespace Client

variable {c : Client} {key : Text} {left : List (Answer Float Body)}

theorem lookup_cons_eq {α : Type} {k k' : Text} {u : α} {l : List (Text × α)} :
    ((k', u) :: l).lookup k = if k = k' then some u else l.lookup k := by
  by_cases h : k = k'
  · simp [h]
  · simp [List.lookup_cons, beq_false_of_ne h, h]

theorem lookup_replaceKey {α : Type} {v w : α} {l : List (Text × α)}
    (h : l.lookup key = some w) (k : Text) :
    (replaceKey key v l).lookup k = if k = key then some v else l.lookup k := by
  induction l with
  | nil => cases h
  | cons p l ih =>
    obtain ⟨k', u⟩ := p
    rw [replaceKey]
    by_cases hk' : k' = key
    · rw [if_pos (by simpa using hk'), lookup_cons_eq, lookup_cons_eq, hk']
      split <;> rfl
    · rw [lookup_cons_eq, if_neg (Ne.symm hk')] at h
      rw [if_neg (by simpa using hk'), lookup_cons_eq, lookup_cons_eq, ih h]
      by_cases hk : k = k'
      · rw [if_pos hk, if_neg (hk ▸ hk'), if_pos hk]
      · rw [if_neg hk, if_neg hk]

/-- **Leaving answers to an object changes its script alone.** They are
what a call can leave: a last part of its answers. -/
theorem objectScript_setObject (h : left <:+ (c.objectScript key).answers) (k : Text) :
    (c.setObject key left).objectScript k =
      if k = key then ⟨left, (c.objectScript key).last⟩ else c.objectScript k := by
  unfold setObject
  cases hl : c.objects.lookup key with
  | none =>
    simp only [objectScript, hl, List.suffix_nil] at h
    by_cases hk : k = key
    · simp [hk, objectScript, hl, h]
    · simp [hk]
  | some answers =>
    simp only [objectScript, hl] at h
    simp only [objectScript, lookup_replaceKey hl]
    by_cases hk : k = key
    · subst hk
      simp only [if_true, hl]
      cases ha : answers.getLast? with
      | none =>
        simp only [ha, List.suffix_nil] at h
        simp [h, ended]
      | some a => simp
    · simp [hk, ended]

@[simp] theorem listingScript_setObject :
    (c.setObject key left).listingScript = c.listingScript := by
  unfold setObject
  cases c.objects.lookup key <;> rfl

@[simp] theorem eventScript_setObject : (c.setObject key left).eventScript = c.eventScript := by
  unfold setObject
  cases c.objects.lookup key <;> rfl

/-! ## Answers that are left -/

theorem replaceKey_self {α : Type} {v : α} {l : List (Text × α)} (h : l.lookup key = some v) :
    replaceKey key v l = l := by
  induction l with
  | nil => rfl
  | cons p l ih =>
    obtain ⟨k, u⟩ := p
    rw [lookup_cons_eq] at h
    rw [replaceKey]
    by_cases hk : k = key
    · rw [if_pos hk.symm] at h
      rw [if_pos (by simpa using hk), Option.some.inj h]
    · rw [if_neg (Ne.symm hk)] at h
      rw [if_neg (by simpa using hk), ih h]

theorem replaceKey_replaceKey {α : Type} {u v : α} {l : List (Text × α)} :
    replaceKey key v (replaceKey key u l) = replaceKey key v l := by
  induction l with
  | nil => rfl
  | cons p l ih =>
    obtain ⟨k, w⟩ := p
    by_cases hk : k = key
    · simp [replaceKey, hk]
    · simp [replaceKey, hk, ih]

/-- A client with the answers of an object that it has is the same. -/
theorem setObject_self : c.setObject key (c.objectScript key).answers = c := by
  unfold setObject
  cases hl : c.objects.lookup key with
  | none => rfl
  | some answers =>
    have hanswers : (c.objectScript key).answers ++ answers.getLast?.toList = answers := by
      simp only [objectScript, hl]
      cases ha : answers.getLast? with
      | none => rw [List.getLast?_eq_none_iff.1 ha]; rfl
      | some a =>
        obtain ⟨before, rfl⟩ := List.getLast?_eq_some_iff.1 ha
        simp
    simp only [hanswers, replaceKey_self hl]

/-- Only the answers that are left last count. -/
theorem setObject_setObject {more : List (Answer Float Body)}
    (h : left <:+ (c.objectScript key).answers) :
    (c.setObject key left).setObject key more = c.setObject key more := by
  unfold setObject
  cases hl : c.objects.lookup key with
  | none => simp only [hl]
  | some answers =>
    have hlast : (left ++ answers.getLast?.toList).getLast? = answers.getLast? := by
      simp only [objectScript, hl] at h
      cases ha : answers.getLast? with
      | none =>
        simp only [ha, List.suffix_nil] at h
        rw [h]
        rfl
      | some a => simp
    simp only [lookup_replaceKey hl, if_true, hlast, replaceKey_replaceKey]

end Client

end DeliveryAudit
