import DeliveryAudit.Proofs.Roster.Marking
import DeliveryAudit.Tally
/-!
# Operations on a tally

A tally is worked on by operations, in any order and number: a line is
observed, a stream of records is counted, or the tally is closed.
`perform_eq` says all that an operation can do: it marks the ids that it
counts, and counts as many lines, with one more for a stream that stops at
an id that cannot be looked up. By induction, a tally that any operations
have reached has marked and counted just what they counted
(`performAll_eq`), from which the invariant of a reconciliation is read
off (`operations_reconcile`).
-/

namespace DeliveryAudit

namespace Tally

/-- An operation on a tally. -/
inductive Operation where
  /-- A line with this id is observed. -/
  | observe (id : Text)
  /-- The records of a stream are counted. -/
  | reconcile (stream : List (Except Record.Fault Record))
  | close

/-- What an operation makes of a tally, and why it stops short, if it
does. -/
def perform (t : Tally) : Operation → Tally × Option Fault
  | .observe id =>
    match t.count? id with
    | some t' => (t', none)
    | none => (t, some .late)
  | .reconcile stream => t.countAll stream
  | .close => (t.close, none)

/-- The ids of a stream that are counted: each observed with success, up to
the first record that is not there or comes too late. -/
def countedOf (t : Tally) : List (Except Record.Fault Record) → List Text
  | [] => []
  | .error _ :: _ => []
  | .ok r :: rest =>
    match t.count? r.id with
    | some t' => r.id :: countedOf t' rest
    | none => []

/-- The ids that an operation observes with success, in order. -/
def counted (t : Tally) : Operation → List Text
  | .observe id => if (t.count? id).isSome then [id] else []
  | .reconcile stream => t.countedOf stream
  | .close => []

/-- How many lines a stream adds that are not observed with success: a fault
that shows only once the line counts adds one. -/
def spoiltOf (t : Tally) : List (Except Record.Fault Record) → Nat
  | [] => 0
  | .error f :: _ => (f.isCounted && !t.isSealed).toNat
  | .ok r :: rest =>
    match t.count? r.id with
    | some t' => spoiltOf t' rest
    | none => 0

/-- How many lines an operation adds that are not observed with success. -/
def spoilt (t : Tally) : Operation → Nat
  | .observe _ => 0
  | .reconcile stream => t.spoiltOf stream
  | .close => 0

/-- The tally after these operations, whether they stop short or not. -/
def performAll (t : Tally) : List Operation → Tally
  | [] => t
  | op :: ops => performAll (t.perform op).1 ops

/-- The ids that these operations observe with success, in order. -/
def countedAll (t : Tally) : List Operation → List Text
  | [] => []
  | op :: ops => t.counted op ++ countedAll (t.perform op).1 ops

/-- How many lines these operations add that are not observed with
success. -/
def spoiltAll (t : Tally) : List Operation → Nat
  | [] => 0
  | op :: ops => t.spoilt op + spoiltAll (t.perform op).1 ops

/-- Whether the ids in an operation are all texts, which can be looked
up. -/
def Operation.HasTexts : Operation → Prop
  | reconcile stream => ∀ f, .error f ∈ stream → f.isCounted = false
  | _ => True

/-- Whether an operation closes a tally. -/
def Operation.isClose : Operation → Bool
  | close => true
  | _ => false

variable {t : Tally} {id : Text} {op : Operation} {ops : List Operation}

/-! ## What an operation can do -/

theorem count?_eq (t : Tally) (id : Text) :
    t.count? id = if t.isSealed then none else some ⟨t.roster.mark id, t.lines + 1, false⟩ := by
  unfold count?
  cases t.isSealed with
  | true => rfl
  | false => rfl

/-- A fault that shows only once the line counts comes too late for a closed
tally. -/
theorem fail_of_isSealed {f : Record.Fault} (h : t.isSealed = true) :
    t.fail f = (t, if f.isCounted then .late else .record f) := by
  rw [fail, h]
  cases f.isCounted with
  | true => rfl
  | false => rfl

/-- On an open tally a line without a record adds one line if it counts. -/
theorem fail_of_open (h : t.isSealed = false) (f : Record.Fault) :
    t.fail f = (⟨t.roster, t.lines + f.isCounted.toNat, false⟩, .record f) := by
  obtain ⟨roster, n, closed⟩ := t
  cases h
  rw [fail]
  cases f.isCounted with
  | true => rfl
  | false => rfl

theorem fail_eq (t : Tally) (f : Record.Fault) :
    (t.fail f).1 = ⟨t.roster, t.lines + (f.isCounted && !t.isSealed).toNat, t.isSealed⟩ := by
  cases h : t.isSealed with
  | true => rw [fail_of_isSealed h, Bool.not_true, Bool.and_false, ← h]; rfl
  | false => rw [fail_of_open h, Bool.not_false, Bool.and_true]

/-- A stream of records is counted as far as its ids are, with one more line
for an id that cannot be looked up. -/
theorem countAll_eq (stream : List (Except Record.Fault Record)) (t : Tally) :
    (t.countAll stream).1 = ⟨(t.countedOf stream).foldl Roster.mark t.roster,
      t.lines + ((t.countedOf stream).length + t.spoiltOf stream), t.isSealed⟩ := by
  induction stream generalizing t with
  | nil => rfl
  | cons record rest ih =>
    obtain ⟨roster, n, closed⟩ := t
    cases record with
    | error f => rw [countAll, fail_eq, countedOf, spoiltOf, List.length_nil, Nat.zero_add]; rfl
    | ok r =>
      cases closed with
      | true => rfl
      | false =>
        have hcount : count? ⟨roster, n, false⟩ r.id = some ⟨roster.mark r.id, n + 1, false⟩ := rfl
        rw [countAll, countedOf, spoiltOf, hcount]
        simp only [ih, List.foldl_cons, List.length_cons]
        rw [Nat.add_right_comm, Nat.add_right_comm (List.length _) 1, Nat.add_assoc]

/-- **All that an operation can do**: it marks the ids that it counts, adds
as many lines, with one more for an id that cannot be looked up, and closes
the tally if it is asked to. -/
theorem perform_eq (t : Tally) (op : Operation) :
    (t.perform op).1 = ⟨(t.counted op).foldl Roster.mark t.roster,
      t.lines + ((t.counted op).length + t.spoilt op), t.isSealed || op.isClose⟩ := by
  cases op with
  | observe id =>
    obtain ⟨roster, n, closed⟩ := t
    cases closed with
    | true => rfl
    | false => rfl
  | reconcile stream =>
    have hopen : (Operation.reconcile stream).isClose = false := rfl
    rw [perform, counted, spoilt, countAll_eq, hopen, Bool.or_false]
  | close =>
    have hclose : Operation.isClose .close = true := rfl
    rw [perform, counted, hclose, Bool.or_true]
    rfl

/-- Nothing is counted onto a closed tally. -/
theorem counted_of_isSealed (h : t.isSealed = true) (op : Operation) : t.counted op = [] := by
  have hlate : ∀ id, t.count? id = none := fun id => by rw [count?_eq, if_pos h]
  cases op with
  | observe id => rw [counted, hlate]; rfl
  | reconcile stream =>
    cases stream with
    | nil => rfl
    | cons record rest =>
      cases record with
      | error f => rfl
      | ok r => rw [counted, countedOf, hlate]
  | close => rfl

/-- No line is added to a closed tally either. -/
theorem spoilt_of_isSealed (h : t.isSealed = true) (op : Operation) : t.spoilt op = 0 := by
  have hlate : ∀ id, t.count? id = none := fun id => by rw [count?_eq, if_pos h]
  cases op with
  | observe id => rfl
  | reconcile stream =>
    cases stream with
    | nil => rfl
    | cons record rest =>
      cases record with
      | error f => rw [spoilt, spoiltOf, h, Bool.not_true, Bool.and_false]; rfl
      | ok r => rw [spoilt, spoiltOf, hlate]
  | close => rfl

/-- Ids that are texts can be looked up. -/
theorem spoiltOf_of_texts {stream : List (Except Record.Fault Record)}
    (h : ∀ f, .error f ∈ stream → f.isCounted = false) (t : Tally) : t.spoiltOf stream = 0 := by
  induction stream generalizing t with
  | nil => rfl
  | cons record rest ih =>
    cases record with
    | error f => rw [spoiltOf, h f List.mem_cons_self]; rfl
    | ok r =>
      rw [spoiltOf]
      cases t.count? r.id with
      | none => rfl
      | some t' => exact ih (fun f hf => h f (List.mem_cons_of_mem _ hf)) t'

/-- **A closed tally stays as it is.** -/
theorem perform_of_isSealed (h : t.isSealed = true) (op : Operation) : (t.perform op).1 = t := by
  rw [perform_eq, counted_of_isSealed h, spoilt_of_isSealed h, h, Bool.true_or]
  obtain ⟨roster, n, closed⟩ := t
  cases h
  rfl

/-! ## What operations reach -/

/-- **What any operations have reached**: all that they counted is marked
and counted, and nothing else. -/
theorem performAll_eq (ops : List Operation) (t : Tally) :
    t.performAll ops = ⟨(t.countedAll ops).foldl Roster.mark t.roster,
      t.lines + ((t.countedAll ops).length + t.spoiltAll ops),
      t.isSealed || ops.any Operation.isClose⟩ := by
  induction ops generalizing t with
  | nil => rw [performAll, countedAll, List.any_nil, Bool.or_false]; rfl
  | cons op ops ih =>
    rw [performAll, ih, countedAll, spoiltAll, List.foldl_append, List.length_append,
      List.any_cons, ← Bool.or_assoc]
    -- What the operations to come add is not to be rewritten.
    generalize (t.perform op).1.countedAll ops = log, (t.perform op).1.spoiltAll ops = more
    rw [perform_eq, Nat.add_assoc, Nat.add_add_add_comm]

/-- Operations on texts add the lines alone that they observe with
success. -/
theorem spoiltAll_of_texts {ops : List Operation} (h : ∀ op ∈ ops, op.HasTexts) (t : Tally) :
    t.spoiltAll ops = 0 := by
  induction ops generalizing t with
  | nil => rfl
  | cons op ops ih =>
    have hop : t.spoilt op = 0 := by
      cases op with
      | observe id => rfl
      | reconcile stream => exact spoiltOf_of_texts (h _ List.mem_cons_self) t
      | close => rfl
    rw [spoiltAll, hop, ih fun op hop => h op (List.mem_cons_of_mem _ hop)]

/-- A closed tally stays as it is, whatever operations follow. -/
theorem performAll_of_isSealed (h : t.isSealed = true) (ops : List Operation) :
    t.performAll ops = t := by
  induction ops with
  | nil => rfl
  | cons op ops ih => rw [performAll, perform_of_isSealed h, ih]

/-- **A reconciliation**: the tally of these ids after the ids in the log
have been observed, in order, besides so many ids that are no texts. -/
structure Reconciles (ids log : List Text) (others : Nat) (t : Tally) : Prop where
  /-- The roster holds the ids that it was made of, each where it first
  occurs. -/
  distinct : t.roster.ids.toList = ids.eraseDups
  /-- The flagged ids are those that were expected and observed. -/
  found : ∀ id, t.roster.isFound id = true ↔ id ∈ ids ∧ id ∈ log
  lines : t.lines = log.length + others
  found_add_missing : t.roster.foundCount + t.roster.missing.length = t.roster.size
  /-- The missing ids are those without a flag, in the order of the
  roster. -/
  missing : t.roster.missing = ids.eraseDups.filter (· ∉ log)
  missing_sublist : t.roster.missing.Sublist t.roster.ids.toList
  foundCount_le : t.roster.foundCount ≤ t.lines

/-- **The invariant of a reconciliation.** Whatever operations a new tally
has gone through, it is a reconciliation of the ids that it was made of
with the ids observed with success. These alone are its lines, as long as
all ids are texts; any other id counts as a line, and marks nothing. From
then on, flags and lines only grow. An open tally counts any line; a closed
one refuses every line and stays as it is for good. -/
theorem operations_reconcile (ids : List Text) (ops : List Operation) :
    let fresh := start (Roster.ofIds ids)
    let t := fresh.performAll ops
    Reconciles ids (fresh.countedAll ops) (fresh.spoiltAll ops) t ∧
      ((∀ op ∈ ops, op.HasTexts) → t.lines = (fresh.countedAll ops).length) ∧
      (∀ more, t.lines ≤ (t.performAll more).lines ∧
        ∀ id, t.roster.isFound id = true → (t.performAll more).roster.isFound id = true) ∧
      (t.isSealed = ops.any Operation.isClose) ∧
      (t.isSealed = false → ∀ id,
        t.perform (.observe id) = (⟨t.roster.mark id, t.lines + 1, false⟩, none)) ∧
      (t.isSealed = true → (∀ more, t.performAll more = t) ∧
        (∀ id, t.perform (.observe id) = (t, some .late)) ∧
        (∀ r rest, t.perform (.reconcile (.ok r :: rest)) = (t, some .late)) ∧
        ∀ f rest, f.isCounted = true →
          t.perform (.reconcile (.error f :: rest)) = (t, some .late)) := by
  intro fresh t
  generalize hlog : fresh.countedAll ops = log
  generalize hothers : fresh.spoiltAll ops = others
  have ht : t = ⟨log.foldl Roster.mark (Roster.ofIds ids), log.length + others,
      ops.any Operation.isClose⟩ := by
    have h := performAll_eq ops fresh
    rw [hlog, hothers] at h
    exact h.trans (by simp only [fresh, start, Nat.zero_add, Bool.false_or])
  refine ⟨?_, fun htexts => ?_, fun more => ⟨?_, fun id hid => ?_⟩, by rw [ht],
    fun hopen id => ?_, fun hsealed => ⟨performAll_of_isSealed hsealed, fun id => ?_,
      fun r rest => ?_, fun f rest hf => ?_⟩⟩
  · rw [ht]
    exact {
      distinct := by rw [Roster.ids_foldl_mark, Roster.ids_ofIds]
      found := Roster.isFound_marks ids log
      lines := rfl
      found_add_missing := Roster.foundCount_add_length_missing _
      missing := Roster.missing_marks ids log
      missing_sublist := List.filter_sublist
      foundCount_le := Nat.le_trans (Roster.foundCount_marks_le ids log) (Nat.le_add_right _ _) }
  · rw [ht, ← hothers, spoiltAll_of_texts htexts]
    rfl
  · rw [performAll_eq]
    exact Nat.le_add_right _ _
  · rw [performAll_eq]
    exact Roster.isFound_of_isFound _ hid
  · rw [perform, count?_eq, hopen]
    rfl
  · rw [perform, count?_eq, if_pos hsealed]
  · rw [perform, countAll, count?_eq, if_pos hsealed]
  · rw [perform, countAll, fail_of_isSealed hsealed, if_pos hf]

/-! ## A reconciliation that is closed

One id is expected twice, one is observed that is not expected, a stream
stops at a line without a record, and one at an id that is a list. -/

namespace ClosedReconciliation

/-- The id of a letter. -/
def letter (c : Char) : Text := [.scalar c]

/-- The operations, of which the last comes too late. -/
def operations : List Operation :=
  [.observe (letter 'a'), .observe (letter 'z'),
    .reconcile [.ok ⟨letter 'b', []⟩, .error (.noLength "int"), .ok ⟨letter 'c', []⟩],
    .observe (letter 'a'), .reconcile [.error .listId], .close, .observe (letter 'c')]

/-- The expected ids. -/
def expected : List Text := [letter 'a', letter 'b', letter 'a', letter 'c']

/-- The tally is closed on five lines, with one id missing, and nothing
changes it any more. -/
theorem operations_reconcile_closed :
    (start (Roster.ofIds expected)).countedAll operations =
      [letter 'a', letter 'z', letter 'b', letter 'a'] ∧
    let t := (start (Roster.ofIds expected)).performAll operations
    t.isSealed = true ∧ t.lines = 5 ∧ t.roster.missing = [letter 'c'] ∧
      ∀ more, t.performAll more = t := by
  obtain ⟨h, -, -, hsealed, -, hclosed⟩ := operations_reconcile expected operations
  have hlog : (start (Roster.ofIds expected)).countedAll operations =
      [letter 'a', letter 'z', letter 'b', letter 'a'] := rfl
  rw [hlog] at h
  exact ⟨hlog, hsealed, h.lines, h.missing, (hclosed hsealed).1⟩

end ClosedReconciliation

end Tally

end DeliveryAudit
