import DeliveryAudit.Destination.Session
import DeliveryAudit.Proofs.Except
/-!
# What lies in the scope of a traversal

A traversal gives notice of its own doings only: the reader speaks, and its
retries do, but an audit that follows them has a voice of its own, and a notice
in this voice is a remark (`Event.remark?`). And it does not end as a second
traversal, which only a handle that comes too late does. A stretch of which both
hold is in scope (`Stretch.InScope`). What answers come to, a call, a page and an
object are in scope, and hence all pages are, by induction on them
(`Reader.inScope_traverse`).
-/

namespace DeliveryAudit

/-- The remark of an audit that an event is. -/
def Event.remark? : Event → Option Notice
  | logged n => if n.speaker = .audit then some n else none
  | _ => none

namespace Stretch

/-- **A stretch in the scope of a traversal**: without a remark, and not ended
as a second traversal. -/
structure InScope (s : Stretch) : Prop where
  events : ∀ e ∈ s.events, e.remark? = Option.none
  fault : ∀ reader, s.fault ≠ some (.again reader)

/-- A result that is no complaint of a second traversal. -/
def NotAgain {α : Type} (x : Except TraversalFault α) : Prop := ∀ reader, x ≠ .error (.again reader)

variable {s : Stretch} {w : World} {f : TraversalFault} {es : List Event}

theorem inScope_happen (hes : ∀ e ∈ es, e.remark? = Option.none) (w : World) :
    (happen es w).InScope :=
  ⟨hes, fun _ => nofun⟩

theorem inScope_none (w : World) : (none w).InScope :=
  inScope_happen (fun _ he => absurd he List.not_mem_nil) w

theorem inScope_stop (hf : ∀ reader, f ≠ .again reader) (w : World) : (stop f w).InScope :=
  ⟨fun _ => nofun, fun reader h => hf reader (Option.some.inj h)⟩

/-- Nothing is added where two stretches are joined. -/
theorem InScope.andThen {next : World → Stretch} (hs : s.InScope)
    (hnext : ∀ w, (next w).InScope) : (s.andThen next).InScope := by
  unfold Stretch.andThen
  cases hfault : s.fault with
  | some f =>
    exact hs
  | none =>
    refine ⟨fun e he => ?_, (hnext s.world).fault⟩
    rcases List.mem_append.1 he with he | he
    · exact hs.events e he
    · exact (hnext s.world).events e he

/-- Stopping with the fault of such a result. -/
theorem NotAgain.inScope {α : Type} {x : Except TraversalFault α} (hx : NotAgain x)
    (h : x = .error f) (w : World) : (stop f w).InScope :=
  inScope_stop (fun reader hf => hx reader (h.trans (hf ▸ rfl))) w

section Call

variable {α : Type} {b : RetryBudget Float} {description : String} {r : Request}
variable {script : Script α} {leave : List (Answer Float α) → Client} {next : α → World → Stretch}

/-- Before a repetition it is the retry that speaks. -/
theorem remark?_of_mem_attemptEvents {n : Nat} {e : Event}
    (he : e ∈ attemptEvents b description r n) : e.remark? = Option.none := by
  rcases List.mem_cons.1 he with rfl | he
  · rfl
  · obtain ⟨i, -, hi⟩ := List.mem_flatMap.1 he
    simp only [List.mem_cons, List.not_mem_nil, or_false] at hi
    rcases hi with rfl | rfl | rfl
    · rfl
    · rfl
    · rfl

variable [Bounds]

/-- **A call is in scope**, whatever its verdict. -/
theorem inScope_call (hnext : ∀ a w, (next a w).InScope) (w : World) :
    (call b description r w script leave next).InScope := by
  unfold call
  refine (inScope_happen (fun e he => remark?_of_mem_attemptEvents he) _).andThen fun w => ?_
  cases (Settlement.settle b _ script.answers script.last).verdict with
  | value a => exact hnext a w
  | failed e => exact ⟨fun _ => nofun, fun _ => nofun⟩
  | gaveUp elapsed e => exact ⟨fun _ => nofun, fun _ => nofun⟩
  | foreign e => exact ⟨fun _ => nofun, fun _ => nofun⟩
  | unhashable kind => exact ⟨fun _ => nofun, fun _ => nofun⟩
  | unsettled => exact ⟨fun _ => nofun, fun _ => nofun⟩

end Call

theorem notAgain_members? (v : Value) : NotAgain (members? v) := by
  cases v with
  | _ => exact fun _ => nofun

theorem notAgain_parts? (v : Value) : NotAgain (parts? v) := by
  cases v with
  | _ => exact fun _ => nofun

end Stretch

namespace Bucket

open Stretch

variable (b : RetryBudget Float) (src : Bucket)

theorem notAgain_unpack (key : Text) (bytes : List UInt8) : NotAgain (unpack key bytes) := by
  unfold unpack
  split
  · split
    · exact fun _ => nofun
    · exact fun _ => nofun
    · exact fun _ => nofun
  · exact fun _ => nofun

theorem notAgain_objectLines (key : Text) (body : Body) : NotAgain (objectLines key body) := by
  intro reader h
  unfold objectLines at h
  split at h
  · cases h
  · cases h
  · cases h
  · cases h
  · rcases Except.cases_of_bind_eq_error h with h | ⟨contents, -, h⟩
    · exact notAgain_unpack _ _ reader h
    · split at h
      · cases h
      · cases h

theorem notAgain_key? (v : Value) : NotAgain (key? v) := by
  unfold key?
  split
  · split
    · exact fun _ => nofun
    · exact fun _ => nofun
  · exact fun _ => nofun

theorem notAgain_continuation (page : List (Value × Value)) :
    NotAgain (continuation src page) := by
  intro reader h
  simp only [continuation] at h
  split at h
  · split at h
    · cases h
    · cases h
  · cases h

theorem inScope_readBody (key : Value) (body : Body) (w : World) :
    (readBody key body w).InScope := by
  refine (inScope_happen (List.forall_mem_singleton.2 rfl) _).andThen fun w => ?_
  cases h : objectLines (keyText key) body with
  | ok ls => exact inScope_happen (List.forall_mem_map.2 fun _ _ => rfl) w
  | error f => exact (notAgain_objectLines _ _).inScope h w

variable [Bounds]

theorem inScope_readObject (key : Value) (w : World) : (readObject b src key w).InScope := by
  unfold readObject
  split
  · exact inScope_call (inScope_readBody key) w
  · refine (inScope_happen (List.forall_mem_singleton.2 rfl) w).andThen fun w => ?_
    exact inScope_stop (by nofun) w

theorem inScope_readObjects (objects : List Value) (w : World) :
    (readObjects b src objects w).InScope := by
  induction objects generalizing w with
  | nil => exact inScope_none w
  | cons o os ih =>
    rw [readObjects]
    cases h : key? o with
    | ok key => exact (inScope_readObject b src key w).andThen ih
    | error f => exact (notAgain_key? o).inScope h w

theorem inScope_readPage {next : Value → World → Stretch}
    (hnext : ∀ token w, (next token w).InScope) (page : List (Value × Value)) (w : World) :
    (readPage b src next page w).InScope := by
  unfold readPage
  cases h : contents page with
  | error f => exact (notAgain_parts? _).inScope h w
  | ok objects =>
    refine (inScope_happen (List.forall_mem_singleton.2 rfl) w).andThen fun w => ?_
    refine (inScope_readObjects b src objects w).andThen fun w => ?_
    cases h : continuation src page with
    | error f => exact (notAgain_continuation src page).inScope h w
    | ok token =>
      cases token with
      | some token => exact hnext token w
      | none => exact inScope_happen (List.forall_mem_singleton.2 rfl) w

theorem inScope_readAnswer {next : Value → World → Stretch}
    (hnext : ∀ token w, (next token w).InScope) (answer : Value) (w : World) :
    (readAnswer b src next answer w).InScope := by
  refine (inScope_happen (List.forall_mem_singleton.2 rfl) _).andThen fun w => ?_
  cases h : members? answer with
  | error f => exact (notAgain_members? answer).inScope h w
  | ok page => exact inScope_readPage b src hnext page w

/-- **Reading a bucket** is in scope, by induction on its pages. -/
theorem inScope_readPages (budget : Nat) (token : Option Value) (w : World) :
    (readPages b src budget token w).InScope := by
  induction budget generalizing token w with
  | zero => exact inScope_stop (by nofun) w
  | succ budget ih =>
    exact inScope_call (inScope_readAnswer b src fun token w => ih (some token) w) w

end Bucket

namespace LogStream

open Stretch

variable (b : RetryBudget Float) (src : LogStream) (sent : Option Value) (lines : Nat)

theorem notAgain_continuation (page : List (Value × Value)) :
    NotAgain (continuation src sent page) := by
  intro reader h
  simp only [continuation] at h
  split at h
  · cases h
  · split at h
    · cases h
    · cases h

/-- An event that is no mapping is of the wrong shape. -/
theorem pageFault_ne_again (events : List Value) (reader : String) :
    pageFault events ≠ some (.again reader) := by
  unfold pageFault
  intro h
  obtain ⟨v, -, hv⟩ := Option.map_eq_some_iff.1 h
  cases hv

theorem inScope_readPage {next : Value → Nat → World → Stretch}
    (hnext : ∀ token lines w, (next token lines w).InScope) (page : List (Value × Value))
    (w : World) : (readPage src sent lines next page w).InScope := by
  unfold readPage
  cases h : events page with
  | error f => exact (notAgain_parts? _).inScope h w
  | ok found =>
    -- Up to its fault, a page is a notice and the lines of its events.
    refine InScope.andThen ⟨?_, fun reader => pageFault_ne_again found reader⟩ fun w => ?_
    · exact List.forall_mem_cons.2 ⟨rfl, List.forall_mem_map.2 fun _ _ => rfl⟩
    · cases h : continuation src sent page with
      | error f => exact (notAgain_continuation src sent page).inScope h w
      | ok token =>
        cases token with
        | some token => exact hnext token _ w
        | none => exact inScope_happen (List.forall_mem_singleton.2 rfl) w

theorem inScope_readAnswer {next : Value → Nat → World → Stretch}
    (hnext : ∀ token lines w, (next token lines w).InScope) (answer : Value) (w : World) :
    (readAnswer src sent lines next answer w).InScope := by
  refine (inScope_happen (List.forall_mem_singleton.2 rfl) _).andThen fun w => ?_
  cases h : members? answer with
  | error f => exact (notAgain_members? answer).inScope h w
  | ok page => exact inScope_readPage src sent lines hnext page w

variable [Bounds]

/-- **Reading a log stream** is in scope, by induction on its pages. -/
theorem inScope_readPages (budget : Nat) (token : Option Value) (w : World) :
    (readPages b src budget token lines w).InScope := by
  induction budget generalizing token lines w with
  | zero => exact inScope_stop (by nofun) w
  | succ budget ih =>
    exact inScope_call
      (inScope_readAnswer src token lines fun token lines w => ih lines (some token) w) w

end LogStream

variable [Bounds]

/-- **A traversal is in its scope**, whatever the client answers. -/
theorem Reader.inScope_traverse (r : Reader) : r.traverse.InScope := by
  obtain ⟨destination, b, c⟩ := r
  cases destination with
  | bucket src => exact Bucket.inScope_readPages b src _ _ _
  | logStream src => exact LogStream.inScope_readPages b src _ _ _ _

end DeliveryAudit
