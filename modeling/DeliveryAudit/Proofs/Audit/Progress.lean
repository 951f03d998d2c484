import DeliveryAudit.Proofs.Audit.Counting
import DeliveryAudit.Proofs.Tally.Operations
/-!
# What an audit tells of its progress

What has happened in an audit is what has happened in the traversal, with a
notice after every ten thousandth line (`Audit.told`). Lines that hold records
are counted and told of before anything that follows them
(`Audit.follow_append`), so that an audit that is ended by a line has got just
as far as this line (`Audit.follow_of_line`).
-/

namespace DeliveryAudit

namespace Audit

variable {enveloped : Bool} {es rest passed : List Event} {records : List Record}
variable {roster : Roster} {n : Nat} {v : Value} {f : Record.Fault}

/-- What an audit makes known of these events, when `n` lines have been counted
before. -/
def told : Nat → List Event → List Event
  | _, [] => []
  | n, .line v :: es => .line v :: (progress (n + 1) ++ told (n + 1) es)
  | n, e :: es => e :: told n es

theorem reverse_progress (n : Nat) : (progress n).reverse = progress n := by
  unfold progress
  split
  · rfl
  · rfl

theorem told_append (es rest : List Event) (n : Nat) :
    told n (es ++ rest) = told n es ++ told (n + es.countP Event.isLine) rest := by
  induction es generalizing n with
  | nil => rfl
  | cons e es ih =>
    cases e with
    | line v =>
      have hcount : n + 1 + es.countP Event.isLine =
          n + (Event.line v :: es).countP Event.isLine := by
        rw [List.countP_cons_of_pos rfl]
        omega
      rw [List.cons_append, told, ih, hcount, told, List.cons_append, List.append_assoc]
    | _ =>
      rw [List.countP_cons_of_neg Bool.false_ne_true]
      exact congrArg (_ :: ·) (ih n)

variable [Bounds]

/-- **Lines that hold records** are counted and told of, before what follows
them. -/
theorem follow_append
    (h : (es.filterMap Event.line?).map (Record.ofLine enveloped) = records.map .ok)
    (rest passed : List Event) (roster : Roster) (n : Nat) :
    follow enveloped (es ++ rest) ⟨roster, n, false⟩ passed =
      follow enveloped rest
        ⟨(records.map Record.id).foldl Roster.mark roster, n + records.length, false⟩
        ((told n es).reverse ++ passed) := by
  induction es generalizing records passed roster n with
  | nil =>
    obtain rfl := List.map_eq_nil_iff.1 h.symm
    rfl
  | cons e es ih =>
    cases e with
    | line v =>
      cases records with
      | nil => cases h
      | cons r records =>
        obtain ⟨hv, hes⟩ := List.cons.inj h
        have hcount : Tally.count? ⟨roster, n, false⟩ r.id =
          some ⟨roster.mark r.id, n + 1, false⟩ := rfl
        rw [List.cons_append, follow, hv]
        simp only [hcount]
        rw [ih hes, List.map_cons, List.foldl_cons, List.length_cons, told, List.reverse_cons,
          List.reverse_append, reverse_progress, Nat.add_right_comm, Nat.add_assoc]
        simp only [List.append_assoc, List.singleton_append]
    | _ =>
      simp only [List.cons_append, follow, told, List.reverse_cons, List.append_assoc,
        List.nil_append]
      exact ih h _ _ _

/-- **The first line without a record** is the last thing that happens. It is
told of, but does not count unless its fault counts. -/
theorem follow_of_line
    (h : (es.filterMap Event.line?).map (Record.ofLine enveloped) = records.map .ok)
    (hv : Record.ofLine enveloped v = .error f) (rest : List Event) (roster : Roster) :
    follow enveloped (es ++ .line v :: rest) (Tally.start roster) [] =
      (⟨(records.map Record.id).foldl Roster.mark roster, records.length + f.isCounted.toNat,
          false⟩, (told 0 (es ++ [.line v])).reverse, some (.record f)) := by
  have hlines : es.countP Event.isLine = records.length := by
    rw [Event.countP_isLine, ← List.length_map, h, List.length_map]
  have hfail := Tally.fail_of_open
    (t := ⟨(records.map Record.id).foldl Roster.mark roster, records.length, false⟩) rfl f
  rw [Tally.start, follow_append h, follow, hv, told_append, hlines, told, told, List.append_nil,
    List.append_nil, List.reverse_append, List.reverse_cons, reverse_progress, List.append_assoc,
    Nat.zero_add]
  simp only [hfail]
  rfl

/-- A traversal whose lines all hold records is followed to its end. -/
theorem follow_of_records
    (h : (es.filterMap Event.line?).map (Record.ofLine enveloped) = records.map .ok)
    (roster : Roster) :
    follow enveloped es (Tally.start roster) [] =
      (⟨(records.map Record.id).foldl Roster.mark roster, records.length, false⟩,
        (told 0 es).reverse, none) := by
  have hfollow := follow_append h [] [] roster 0
  rw [List.append_nil, List.append_nil, Nat.zero_add] at hfollow
  exact hfollow

end Audit

end DeliveryAudit
