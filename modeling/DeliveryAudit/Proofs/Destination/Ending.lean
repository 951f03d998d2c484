import DeliveryAudit.Destination.Session
import DeliveryAudit.Proofs.Destination.Cursor
import DeliveryAudit.Proofs.Destination.Listing
import DeliveryAudit.Proofs.Retry.Repeats
/-!
# The end of a traversal

However a service throttles and whatever it answers, a traversal without a
fault has come to the last page: one that is not truncated in a bucket
(`Bucket.Exhausts`), or the one whose token was sent in a log stream
(`LogStream.Exhausts`). Both are shown by induction on the pages, each of
which is settled by the next answer that is not throttling
(`Script.settledAt`).
-/

namespace DeliveryAudit

namespace Script

variable {α : Type}
variable [Bounds]

/-- The answer that settles a call on a script, where calls are counted
from 0. -/
def settledAt (s : Script α) (i : Nat) : Answer Float α := (s.remaining i).next

theorem remaining_rest (s : Script α) (n : Nat) : s.rest.remaining n = s.remaining (n + 1) := by
  induction n with
  | zero => rfl
  | succ n ih => rw [remaining, ih]; rfl

theorem settledAt_rest (s : Script α) (i : Nat) : s.rest.settledAt i = s.settledAt (i + 1) := by
  rw [settledAt, remaining_rest, settledAt]

end Script

namespace Stretch

variable {α : Type} {b : RetryBudget Float} {description : String} {r : Request} {w : World}
variable {script : Script α} {leave : List (Answer Float α) → Client} {next : α → World → Stretch}

/-- **A call without a fault** goes on with the value that settles it. -/
theorem call_of_fault_eq_none [Bounds]
    (h : (call b description r w script leave next).fault = .none) :
    ∃ v t, script.next.outcome = .ok v ∧ call b description r w script leave next =
      after (attemptEvents b description r (script.waits + 1))
        (next v { w with client := leave script.rest.answers, clock := t }) := by
  rcases call_course b description r w script leave next with
    ⟨-, t, hcall⟩ | ⟨n, f, w', -, hcall⟩
  · cases ho : script.next.outcome with
    | error e =>
      rw [hcall, proceed_error ho] at h
      cases h
    | ok v => exact ⟨v, t, rfl, by rw [hcall, proceed_ok ho]⟩
  · rw [hcall] at h
    cases h

/-- Stretches that are joined have no fault only if neither has. -/
theorem andThen_of_joined_fault_eq_none {s : Stretch} {next : World → Stretch}
    (h : (s.andThen next).fault = .none) :
    s.fault = .none ∧ s.andThen next = after s.events (next s.world) := by
  cases hs : s.fault with
  | some f => rw [andThen_of_fault_eq_some hs, hs] at h; cases h
  | none => exact ⟨rfl, andThen_of_fault_eq_none hs⟩

end Stretch

namespace Bucket

variable {b : RetryBudget Float} {src : Bucket} {w : World} {s : Script Value} {k : Nat}

/-- A stretch that leaves the listing as it is, and answers no page. -/
def KeepsListing (w : World) (s : Stretch) : Prop :=
  s.world.client.listingScript = w.client.listingScript ∧ s.pages = 0

theorem keepsListing_readBody {key : Value} {body : Body}
    (h : (readBody key body w).fault = none) : KeepsListing w (readBody key body w) := by
  rw [readBody, Stretch.happen_andThen] at h ⊢
  cases hlines : objectLines (keyText key) body with
  | error f => rw [hlines] at h; cases h
  | ok ls =>
    have hpages : (ls.map lineEvent).countP Event.isPage = 0 := by
      rw [map_lineEvent, Stretch.pages_map_line]
    exact ⟨rfl, (Stretch.pages_after).trans ((Nat.zero_add _).trans hpages)⟩

variable [Bounds]

/-- **The place of the last page** among the answers to the requests for
pages: it is not truncated, and all pages before it are, with a token. -/
structure Exhausts (s : Script Value) (k : Nat) : Prop where
  turns : ∀ i < k, isTruncated (s.settledAt i) = true ∧
    (tokenOf (s.settledAt i)).isTruthy = true
  page : ∃ page, (s.settledAt k).outcome = .ok (.mapping page)
  last : isTruncated (s.settledAt k) = false

theorem Exhausts.zero {page : List (Value × Value)} (ho : s.next.outcome = .ok (.mapping page))
    (hlast : isTruncated s.next = false) : Exhausts s 0 :=
  ⟨fun i hi => absurd hi (Nat.not_lt_zero i), ⟨page, ho⟩, hlast⟩

theorem Exhausts.succ (htruncated : isTruncated s.next = true)
    (htoken : (tokenOf s.next).isTruthy = true) (h : Exhausts s.rest k) : Exhausts s (k + 1) where
  turns i hi := by
    cases i with
    | zero => exact ⟨htruncated, htoken⟩
    | succ i =>
      rw [← Script.settledAt_rest]
      exact h.turns i (Nat.lt_of_succ_lt_succ hi)
  page := by rw [← Script.settledAt_rest]; exact h.page
  last := by rw [← Script.settledAt_rest]; exact h.last

/-- Reading an object leaves the listing as it is. -/
theorem keepsListing_readObject {key : Value} (h : (readObject b src key w).fault = none) :
    KeepsListing w (readObject b src key w) := by
  unfold readObject at h ⊢
  split at h
  · rename_i hkey
    rw [if_pos hkey]
    obtain ⟨body, t, -, hcall⟩ := Stretch.call_of_fault_eq_none h
    rw [hcall] at h ⊢
    obtain ⟨hlisting, hpages⟩ := keepsListing_readBody h
    refine ⟨hlisting.trans (listingScript_leave _ _), ?_⟩
    rw [Stretch.pages_after, Stretch.pages_attemptEvents, hpages]
  · cases h

theorem keepsListing_readObjects {os : List Value} (h : (readObjects b src os w).fault = none) :
    KeepsListing w (readObjects b src os w) := by
  induction os generalizing w with
  | nil => exact ⟨rfl, rfl⟩
  | cons o os ih =>
    rw [readObjects] at h ⊢
    cases hkey : key? o with
    | error f => rw [hkey] at h; cases h
    | ok key =>
      simp only [hkey] at h ⊢
      obtain ⟨hfault, hjoin⟩ := Stretch.andThen_of_joined_fault_eq_none h
      obtain ⟨hlisting, hpages⟩ := keepsListing_readObject hfault
      rw [hjoin] at h ⊢
      obtain ⟨hlisting', hpages'⟩ := ih h
      refine ⟨hlisting'.trans hlisting, ?_⟩
      rw [Stretch.pages_after, hpages', ← Stretch.pages, hpages]

/-- **An answer that is read without a fault** is a page, whose objects
leave the listing as it is. -/
theorem readAnswer_of_fault_eq_none {n : Nat} {a : Answer Float Value} {answer : Value}
    (ho : a.outcome = .ok answer)
    (h : (readAnswer b src (fun token w => readPages b src n (some token) w) answer w).fault =
      none) :
    ∃ page w', answer = .mapping page ∧ w'.client.listingScript = w.client.listingScript ∧
      (turn b src n a w').fault = none ∧
      (readAnswer b src (fun token w => readPages b src n (some token) w) answer w).pages =
        (turn b src n a w').pages + 1 := by
  rw [readAnswer, Stretch.happen_andThen] at h ⊢
  cases answer with
  | mapping page =>
    have hentries : a.entries = page := by rw [Answer.entries, ho]
    simp only [Stretch.members?, readPage, Stretch.after_fault] at h ⊢
    cases hos : contents page with
    | error f => rw [hos] at h; cases h
    | ok os =>
      simp only [hos, Stretch.happen_andThen, Stretch.after_fault] at h ⊢
      obtain ⟨hfault, hjoin⟩ := Stretch.andThen_of_joined_fault_eq_none h
      obtain ⟨hlisting, hpages⟩ := keepsListing_readObjects hfault
      rw [hjoin] at h ⊢
      rw [← hentries] at h ⊢
      refine ⟨_, _, rfl, hlisting, h, ?_⟩
      rw [Stretch.pages_after, Stretch.pages_after, Stretch.pages_after, ← Stretch.pages, hpages,
        Nat.zero_add, Nat.add_comm]
      exact congrArg (· + 1) (Nat.zero_add _)
  | _ => cases h

/-- **Pages that are read without a fault** come to the last page. -/
theorem exhausts_of_readPages {n : Nat} {token : Option Value}
    (h : (readPages b src n token w).fault = none) :
    ∃ k, Exhausts w.client.listingScript k ∧ (readPages b src n token w).pages = k + 1 := by
  induction n generalizing token w with
  | zero => cases h
  | succ n ih =>
    rw [readPages] at h ⊢
    obtain ⟨answer, t, ho, hcall⟩ := Stretch.call_of_fault_eq_none h
    rw [hcall] at h ⊢
    rw [Stretch.pages_after, Stretch.pages_attemptEvents, Nat.zero_add]
    obtain ⟨page, w', rfl, hscript, hturn, hpages⟩ := readAnswer_of_fault_eq_none ho h
    rw [hpages]
    cases htruncated : isTruncated w.client.listingScript.next with
    | false =>
      rw [turn_of_not_isTruncated htruncated]
      exact ⟨0, .zero ho htruncated, rfl⟩
    | true =>
      rw [turn_of_isTruncated htruncated] at hturn ⊢
      cases htoken : (tokenOf w.client.listingScript.next).isTruthy with
      | false => rw [htoken] at hturn; cases hturn
      | true =>
        rw [htoken, if_pos rfl] at hturn
        obtain ⟨k, hk, hcount⟩ := ih hturn
        rw [hscript] at hk
        exact ⟨k + 1, .succ htruncated htoken hk, by rw [if_pos rfl, hcount]⟩

end Bucket

namespace LogStream

variable {b : RetryBudget Float} {src : LogStream} {w : World} {s : Script Value} {k : Nat}
variable {sent : Option Value}
variable [Bounds]

/-- The token that was sent for an answer, where the first request carried
this one. -/
def sentBefore (s : Script Value) (sent : Option Value) : Nat → Option Value
  | 0 => sent
  | i + 1 => some (tokenOf (s.settledAt i))

/-- **The place of the last page** among the answers to the requests for
pages: its token is the one that was sent, and all pages before it have
another. -/
structure Exhausts (s : Script Value) (sent : Option Value) (k : Nat) : Prop where
  goesOn : ∀ i < k, (tokenOf (s.settledAt i)).isTruthy = true ∧
    (sentBefore s sent i).any (tokenOf (s.settledAt i)).same = false
  page : ∃ page, (s.settledAt k).outcome = .ok (.mapping page)
  token : (tokenOf (s.settledAt k)).isTruthy = true
  repeated : (sentBefore s sent k).any (tokenOf (s.settledAt k)).same = true

theorem sentBefore_rest (i : Nat) :
    sentBefore s.rest (some (tokenOf s.next)) i = sentBefore s sent (i + 1) := by
  cases i with
  | zero => rfl
  | succ i => rw [sentBefore, sentBefore, Script.settledAt_rest]

theorem Exhausts.succ (htoken : (tokenOf s.next).isTruthy = true)
    (hsent : sent.any (tokenOf s.next).same = false)
    (h : Exhausts s.rest (some (tokenOf s.next)) k) : Exhausts s sent (k + 1) where
  goesOn i hi := by
    cases i with
    | zero => exact ⟨htoken, hsent⟩
    | succ i =>
      rw [← Script.settledAt_rest, ← sentBefore_rest]
      exact h.goesOn i (Nat.lt_of_succ_lt_succ hi)
  page := by rw [← Script.settledAt_rest]; exact h.page
  token := by rw [← Script.settledAt_rest]; exact h.token
  repeated := by rw [← Script.settledAt_rest, ← sentBefore_rest]; exact h.repeated

/-- What follows the lines of a page. -/
def turn (b : RetryBudget Float) (src : LogStream) (n lines : Nat) (sent : Option Value)
    (a : Answer Float Value) (w : World) : Stretch :=
  match continuation src sent a.entries with
  | .error f => Stretch.stop f w
  | .ok (some token) => readPages b src n (some token) lines w
  | .ok none => Stretch.happen [closingNote src lines w.pages] w

theorem turn_of_not_isTruthy {n lines : Nat} {a : Answer Float Value}
    (h : (tokenOf a).isTruthy = false) :
    turn b src n lines sent a w =
      Stretch.stop (.destination (.noForwardToken src.group)) w := by
  unfold tokenOf at h
  simp [turn, continuation, h]

theorem turn_of_isTruthy {n lines : Nat} {a : Answer Float Value}
    (h : (tokenOf a).isTruthy = true) :
    turn b src n lines sent a w =
      if sent.any (tokenOf a).same then Stretch.happen [closingNote src lines w.pages] w
      else readPages b src n (some (tokenOf a)) lines w := by
  unfold tokenOf at h ⊢
  cases hany : sent.any ((Value.entry? "nextForwardToken" a.entries).getD .null).same with
  | true => simp [turn, continuation, h, hany]
  | false => simp [turn, continuation, h, hany]

/-- **An answer that is read without a fault** is a page, whose lines leave
the answers to come as they are. -/
theorem readAnswer_of_fault_eq_none {n lines : Nat} {a : Answer Float Value} {answer : Value}
    (ho : a.outcome = .ok answer)
    (h : (readAnswer src sent lines (fun token lines w => readPages b src n (some token) lines w)
      answer w).fault = none) :
    ∃ page lines' w', answer = .mapping page ∧
      w'.client.eventScript = w.client.eventScript ∧ (turn b src n lines' sent a w').fault = none ∧
      (readAnswer src sent lines (fun token lines w => readPages b src n (some token) lines w)
        answer w).pages = (turn b src n lines' sent a w').pages + 1 := by
  rw [readAnswer, Stretch.happen_andThen] at h ⊢
  cases answer with
  | mapping page =>
    have hentries : a.entries = page := by rw [Answer.entries, ho]
    simp only [Stretch.members?, readPage, Stretch.after_fault] at h ⊢
    cases hfound : events page with
    | error f => rw [hfound] at h; cases h
    | ok found =>
      simp only [hfound] at h ⊢
      obtain ⟨-, hjoin⟩ := Stretch.andThen_of_joined_fault_eq_none h
      rw [hjoin] at h ⊢
      rw [← hentries] at h ⊢
      refine ⟨_, lines + (pageLines found).length, { w with pages := w.pages + 1 }, rfl, rfl, h, ?_⟩
      have hnone : ∀ text, (Stretch.note .debug text ::
          (pageLines found).map Event.line).countP Event.isPage = 0 := fun text => by
        rw [List.countP_cons_of_neg Bool.false_ne_true, Stretch.pages_map_line]
      rw [Stretch.pages_after, Stretch.pages_after, hnone, Nat.zero_add, Nat.add_comm]
      rfl
  | _ => cases h

/-- **Pages that are read without a fault** come to the last page. -/
theorem exhausts_of_readPages {n lines : Nat} (h : (readPages b src n sent lines w).fault = none) :
    ∃ k, Exhausts w.client.eventScript sent k ∧
      (readPages b src n sent lines w).pages = k + 1 := by
  induction n generalizing sent lines w with
  | zero => cases h
  | succ n ih =>
    rw [readPages] at h ⊢
    obtain ⟨answer, t, ho, hcall⟩ := Stretch.call_of_fault_eq_none h
    rw [hcall] at h ⊢
    rw [Stretch.pages_after, Stretch.pages_attemptEvents, Nat.zero_add]
    obtain ⟨page, lines', w', rfl, hscript, hturn, hpages⟩ := readAnswer_of_fault_eq_none ho h
    rw [hpages]
    cases htoken : (tokenOf w.client.eventScript.next).isTruthy with
    | false => rw [turn_of_not_isTruthy htoken] at hturn; cases hturn
    | true =>
      rw [turn_of_isTruthy htoken] at hturn ⊢
      cases hany : sent.any (tokenOf w.client.eventScript.next).same with
      | true =>
        rw [if_pos rfl]
        exact ⟨0, ⟨fun i hi => absurd hi (Nat.not_lt_zero i), ⟨page, ho⟩, htoken, hany⟩, rfl⟩
      | false =>
        rw [hany, if_neg Bool.false_ne_true] at hturn
        obtain ⟨k, hk, hcount⟩ := ih hturn
        rw [hscript] at hk
        exact ⟨k + 1, .succ htoken hany hk, by rw [if_neg Bool.false_ne_true, hcount]⟩

end LogStream

namespace Reader

variable [Bounds]

/-- Whether a traversal has come to the end that its service has set, after
all the pages that it has counted. -/
def ComesToEnd (r : Reader) : Prop :=
  match r.destination with
  | .bucket _ => ∃ k, Bucket.Exhausts r.client.listingScript k ∧ r.traverse.pages = k + 1
  | .logStream _ =>
    ∃ k, LogStream.Exhausts r.client.eventScript none k ∧ r.traverse.pages = k + 1

/-- **A traversal without a fault has come to its end.** -/
theorem comesToEnd_of_fault_eq_none {r : Reader} (h : r.traverse.fault = none) :
    r.ComesToEnd := by
  unfold ComesToEnd
  unfold traverse at h ⊢
  cases hdestination : r.destination with
  | bucket src =>
    rw [hdestination] at h
    exact Bucket.exhausts_of_readPages h
  | logStream src =>
    rw [hdestination] at h
    exact LogStream.exhausts_of_readPages h

end Reader

end DeliveryAudit
