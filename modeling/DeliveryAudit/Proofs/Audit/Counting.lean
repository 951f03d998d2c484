import DeliveryAudit.Audit
import DeliveryAudit.Proofs.Destination.History
/-!
# What an audit counts

An audit follows a traversal event by event, but what it comes to depends
on the lines and on the fault at the end alone: the tally is the tally of
the records in the lines (`Tally.countAll`), and the first line without a
record wins over the fault of the traversal (`ofTraversal_eq`).
-/

namespace DeliveryAudit

/-- **Records are counted one after another**, onto a tally that is not
sealed, before what follows them. -/
theorem Tally.countAll_records (rs : List Record) (rest : List (Except Record.Fault Record))
    (roster : Roster) (n : Nat) :
    countAll ⟨roster, n, false⟩ (rs.map .ok ++ rest) =
      countAll ⟨(rs.map Record.id).foldl Roster.mark roster, n + rs.length, false⟩ rest := by
  induction rs generalizing roster n with
  | nil => rfl
  | cons r rs ih =>
    have hcount : count? ⟨roster, n, false⟩ r.id = some ⟨roster.mark r.id, n + 1, false⟩ := rfl
    rw [List.map_cons, List.cons_append, countAll, hcount, List.map_cons, List.foldl_cons,
      List.length_cons, Nat.add_comm rs.length, ← Nat.add_assoc]
    exact ih _ _

/-- The record of a payload that is long enough. -/
theorem Record.ofPayload_of_le {payload : Text} (h : idLength ≤ payload.length) :
    ofPayload payload = .ok ⟨payload.take idLength, payload.drop idLength⟩ :=
  if_neg (Nat.not_lt.2 h)

/-- Payloads that are long enough hold records. -/
theorem Record.map_ofPayload {payloads : List Text} (h : ∀ p ∈ payloads, idLength ≤ p.length) :
    payloads.map ofPayload =
      (payloads.map fun p => (⟨p.take idLength, p.drop idLength⟩ : Record)).map .ok := by
  rw [List.map_map]
  exact List.map_congr_left fun p hp => ofPayload_of_le (h p hp)

/-- **Payloads are counted by their starts**, before what follows them. -/
theorem Tally.countAll_payloads {payloads : List Text}
    (h : ∀ p ∈ payloads, Record.idLength ≤ p.length) (rest : List (Except Record.Fault Record))
    (roster : Roster) :
    (start roster).countAll (payloads.map Record.ofPayload ++ rest) =
      countAll ⟨(payloads.map (List.take Record.idLength)).foldl Roster.mark roster,
        payloads.length, false⟩ rest := by
  rw [Record.map_ofPayload h, start, countAll_records, List.map_map, List.length_map,
    Nat.zero_add]
  rfl

/-- A payload that is too short does not count. -/
theorem Record.isCounted_of_ofPayload {payload : Text} {f : Fault}
    (h : ofPayload payload = .error f) : f.isCounted = false := by
  unfold ofPayload at h
  split at h
  · cases h
    rfl
  · cases h

/-- **A line of text** without a record does not count. Only what is no text
may show its fault too late. -/
theorem Record.isCounted_of_text [Bounds] {enveloped : Bool} {line : Text} {f : Fault}
    (h : ofLine enveloped (.text line) = .error f) : f.isCounted = false := by
  have hpayloadOf : ∀ v g, payloadOf line v = .error g → g.isCounted = false := by
    intro v g hg
    unfold payloadOf at hg
    split at hg
    · split at hg
      · cases hg
      · cases hg
        rfl
    · cases hg
      rfl
  have hopened : ∀ g, openEnvelope line = .error g → g.isCounted = false := by
    intro g hg
    unfold openEnvelope at hg
    split at hg
    · exact hpayloadOf _ g hg
    · cases hg
      rfl
    · cases hg
      rfl
    · cases hg
      rfl
  cases enveloped with
  | false => exact isCounted_of_ofPayload h
  | true =>
    rw [ofLine] at h
    cases hopen : openEnvelope line with
    | ok payload =>
      rw [hopen] at h
      exact isCounted_of_ofPayload h
    | error g =>
      rw [hopen] at h
      cases h
      exact hopened _ hopen

namespace Audit

variable [Bounds] (enveloped : Bool)

/-- What lines come to when they are counted onto a tally. -/
def count (enveloped : Bool) (lines : List Value) (t : Tally) : Tally × Option Tally.Fault :=
  t.countAll (lines.map (Record.ofLine enveloped))

/-- **Following a traversal counts its lines.** What else happens in it
does not matter. -/
theorem follow_eq (es : List Event) (t : Tally) (passed : List Event) :
    ((follow enveloped es t passed).1, (follow enveloped es t passed).2.2) =
      count enveloped (es.filterMap Event.line?) t := by
  induction es generalizing t passed with
  | nil => rfl
  | cons e es ih =>
    cases e with
    | line v =>
      rw [List.filterMap_cons_some (rfl : Event.line? (.line v) = some v), count, List.map_cons,
        follow]
      cases hr : Record.ofLine enveloped v with
      | error f => rfl
      | ok r =>
        rw [Tally.countAll]
        cases hc : t.count? r.id with
        | none => simp only [hc]
        | some t' =>
          simp only [hc]
          exact ih t' _
    | _ => exact ih t _

/-- How an audit ends, by what its lines come to and the fault of the
traversal. -/
def faultOf : Option Tally.Fault → Option TraversalFault → Option AuditFault
  | some f, _ => some (.tally f)
  | none, some f => some (.traversal f)
  | none, none => none

/-- The tally of an audit: it is closed only at the end of a traversal. -/
def tallyOf (t : Tally) : Option Tally.Fault → Option TraversalFault → Tally
  | none, none => t.close
  | _, _ => t

/-- **What an audit comes to**, by the lines and the fault alone. -/
theorem ofTraversal_eq (s : Stretch) (roster : Roster) :
    let counted := count enveloped s.lines (Tally.start roster)
    (ofTraversal enveloped s roster).tally = tallyOf counted.1 counted.2 s.fault ∧
      (ofTraversal enveloped s roster).fault = faultOf counted.2 s.fault := by
  have h := follow_eq enveloped s.events (Tally.start roster) []
  simp only [Stretch.lines, ← h]
  unfold ofTraversal
  obtain ⟨t, passed, f⟩ := follow enveloped s.events (Tally.start roster) []
  cases f with
  | some f => exact ⟨rfl, rfl⟩
  | none =>
    cases s.fault with
    | some f => exact ⟨rfl, rfl⟩
    | none => exact ⟨rfl, rfl⟩

/-- Traversals with the same lines and the same fault are audited alike. -/
theorem ofTraversal_congr {s s' : Stretch} (hlines : s'.lines = s.lines)
    (hfault : s'.fault = s.fault) (roster : Roster) :
    (ofTraversal enveloped s' roster).tally = (ofTraversal enveloped s roster).tally ∧
      (ofTraversal enveloped s' roster).fault = (ofTraversal enveloped s roster).fault := by
  rw [(ofTraversal_eq enveloped s' roster).1, (ofTraversal_eq enveloped s' roster).2,
    (ofTraversal_eq enveloped s roster).1, (ofTraversal_eq enveloped s roster).2, hlines, hfault]
  exact ⟨rfl, rfl⟩

end Audit

end DeliveryAudit
