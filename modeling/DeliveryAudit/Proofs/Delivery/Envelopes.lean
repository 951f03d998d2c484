import DeliveryAudit.Destination.Bucket
import DeliveryAudit.Proofs.Json.Spelling
import DeliveryAudit.Proofs.Text.Utf8
import DeliveryAudit.Record
/-!
# Objects of envelopes

An object holds envelopes, each on a line of its own. Whatever way their
payloads are spelled, the lines of the object are the envelopes
(`lines_flatMap`), and every envelope is opened to its payload
(`openEnvelope_spelled`).
-/

namespace DeliveryAudit

namespace Bucket

variable {l : List Char}

theorem lines_nil : lines [] = [] := by
  rw [lines, List.splitOn_nil]
  rfl

/-- A line that is not empty is the first one. -/
theorem lines_append_newline (hl : '\n' ∉ l) (hne : l ≠ []) (text : List Char) :
    lines (l ++ '\n' :: text) = l :: lines text := by
  rw [lines, List.splitOn_append_cons_self_of_not_mem hl,
    List.filter_cons_of_pos (by simpa using hne)]
  rfl

/-- **The lines of a text** in which every line ends in a newline, and none
is empty. -/
theorem lines_flatMap {ls : List (List Char)} (h : ∀ l ∈ ls, '\n' ∉ l ∧ l ≠ []) :
    lines (ls.flatMap fun l => l ++ ['\n']) = ls := by
  induction ls with
  | nil => exact lines_nil
  | cons l ls ih =>
    obtain ⟨hl, hne⟩ := h l List.mem_cons_self
    rw [List.flatMap_cons, List.append_assoc, List.singleton_append, lines_append_newline hl hne,
      ih fun l hl => h l (List.mem_cons_of_mem _ hl)]

end Bucket

namespace Record

/-- The payload of an object with the one member that holds it. -/
theorem payloadOf_object (line t : Text) :
    payloadOf line (.object [(payloadName, .text t)]) = .ok t := by
  have hmember : payloadMember? [(payloadName, Json.text t)] = some (.text t) := by
    rw [payloadMember?, Json.member?, if_pos rfl]
  have hlatest : Json.latest [(payloadName, Json.text t)] = [(payloadName, .text t)] := rfl
  rw [payloadOf, hlatest, hmember]

/-- **An envelope is opened to its payload**, however it is spelled. -/
theorem openEnvelope_spelled [Bounds] {cs l : List Char} (h : Json.SpellsEnvelope cs l) :
    openEnvelope (l.map .scalar) = .ok (cs.map .scalar) := by
  rw [openEnvelope, h.read_eq]
  exact payloadOf_object _ _

end Record

end DeliveryAudit
