import DeliveryAudit.Destination.Session
import DeliveryAudit.Proofs.Delivery.Envelopes
import DeliveryAudit.Proofs.Destination.Listing
import Mathlib.Data.List.Forall2
/-!
# Round trips through an object

Payloads are written as envelopes, each on a line of its own and spelled
in any way, with any number of newlines between them (`Separates`). The
reader of the object takes the text apart into the same envelopes, and
every one of them carries its payload (`envelopes_round_trip`).
-/

namespace DeliveryAudit

/-- **A line that carries a payload**: it is opened to the payload, and the
record of a payload that is long enough is a division of it. -/
structure Record.Carries [Bounds] (payload : String) (line : Value) : Prop where
  opened : ∃ t, line = .text t ∧ openEnvelope t = .ok (Text.ofString payload)
  divided : idLength ≤ payload.length → ∃ r, ofLine true line = .ok r ∧
    r.id.length = idLength ∧ r.id ++ r.rest = Text.ofString payload
  short : payload.length < idLength →
    ofLine true line = .error (.malformed (.short (.ofString payload)))

/-- However an envelope is spelled, it carries its payload. -/
theorem Record.carries_lineOf [Bounds] {payload : String} {l : List Char}
    (h : Json.SpellsEnvelope payload.toList l) : Carries payload (Bucket.lineOf l) := by
  have hopen : openEnvelope (l.map .scalar) = .ok (Text.ofString payload) := openEnvelope_spelled h
  have hrecord : ofLine true (Bucket.lineOf l) = ofPayload (Text.ofString payload) := by
    simp only [ofLine, Bucket.lineOf, hopen]
  refine ⟨⟨_, rfl, hopen⟩, fun hlong => ?_, fun hshort => ?_⟩
  · refine ⟨⟨(Text.ofString payload).take idLength, (Text.ofString payload).drop idLength⟩,
      ?_, ?_, List.take_append_drop _ _⟩
    · rw [hrecord, ofPayload, Text.length_ofString, if_neg (Nat.not_lt.2 hlong)]
    · rw [List.length_take, Text.length_ofString, Nat.min_eq_left hlong]
  · rw [hrecord, ofPayload, Text.length_ofString, if_pos hshort]
    rfl

namespace Bucket

/-! ## Newlines between lines -/

/-- **A text with these lines**: there is a newline at least between two of
them, and any number of newlines more. -/
inductive Separates : List (List Char) → List Char → Prop
  | nil : Separates [] []
  | newline {ls : List (List Char)} {text : List Char} :
      Separates ls text → Separates ls ('\n' :: text)
  | last (l : List Char) : Separates [l] l
  | line (l : List Char) {ls : List (List Char)} {text : List Char} :
      Separates ls text → Separates (l :: ls) (l ++ '\n' :: text)

variable {l text : List Char} {ls : List (List Char)}

theorem lines_newline (text : List Char) : lines ('\n' :: text) = lines text := by
  have hsplit : ('\n' :: text).splitOn '\n' = [] :: text.splitOn '\n' :=
    List.splitOn_append_cons_self_of_not_mem List.not_mem_nil text
  rw [lines, hsplit, List.filter_cons_of_neg (by simp)]
  rfl

theorem lines_singleton (hl : '\n' ∉ l) (hne : l ≠ []) : lines l = [l] := by
  rw [lines, List.splitOn_eq_singleton hl, List.filter_cons_of_pos (by simpa using hne),
    List.filter_nil]

/-- **Lines are told apart by the newlines between them.** -/
theorem lines_of_separates (h : Separates ls text) (hls : ∀ l ∈ ls, '\n' ∉ l ∧ l ≠ []) :
    lines text = ls := by
  induction h with
  | nil => exact lines_nil
  | newline _ ih => rw [lines_newline, ih hls]
  | last l =>
    obtain ⟨hl, hne⟩ := hls l List.mem_cons_self
    exact lines_singleton hl hne
  | line l _ ih =>
    obtain ⟨hl, hne⟩ := hls l List.mem_cons_self
    rw [lines_append_newline hl hne, ih fun l hl => hls l (List.mem_cons_of_mem _ hl)]

/-! ## Reading the object -/

variable {b : RetryBudget Float} {src : Bucket} {key : Text} {script : Script Body}
variable {bytes : List UInt8}

/-- The lines of an object with these bytes. -/
theorem objectLines_of_unpack (hls : ∀ l ∈ ls, '\n' ∉ l ∧ l ≠ []) (htext : Separates ls text)
    (hbytes : unpack key bytes = .ok (Utf8.encode text)) :
    objectLines key (.bytes bytes) = .ok ls := by
  simp only [objectLines, hbytes, Utf8.decode_encode, lines_of_separates htext hls, bind,
    Except.bind]

variable [Bounds]

/-- **An object that is answered** to a patient call hands out its
lines. -/
theorem readObject_of_objectLines {body : Body} {w : World}
    (hscript : scriptOf w.client (.text key) = script) (hpatient : b.IsPatient script)
    (hbody : script.next.outcome = .ok body) (hlines : objectLines key body = .ok ls) :
    (readObject b src (.text key) w).fault = none ∧
      (readObject b src (.text key) w).lines = ls.map lineOf := by
  have hhashable : (Value.text key).isHashable = true := rfl
  rw [readObject, if_pos hhashable, hscript]
  obtain ⟨t, hcall⟩ := Stretch.call_of_isPatient ("get s3 object " ++ (Value.text key).quoted)
    (.getObject src.name (.text key)) w (fun left => leave w.client left (.text key))
    (readBody (.text key)) hpatient
  rw [hcall, Stretch.proceed_ok hbody, readBody, Stretch.happen_andThen, keyText, hlines]
  simp only [Stretch.after_happen]
  refine ⟨rfl, ?_⟩
  rw [Stretch.lines_after, Stretch.lines_attemptEvents, Stretch.lines, List.filterMap_append,
    map_lineEvent, Stretch.lines_map_line]
  rfl

/-- **The only object of a listing** hands out the lines of the
traversal. -/
theorem read_of_objectLines {c : Client} {k : Nat} {body : Body} (hq : c.listingScript.IsQuiet)
    (hturns : ∀ i < k, Turns c i) (hlisting : IsListing (answerAt c k))
    (hlast : isTruncated (answerAt c k) = false) (hkeys : listed c (k + 1) = [key])
    (hpatient : b.IsPatient (scriptOf c (.text key)))
    (hbody : (scriptOf c (.text key)).next.outcome = .ok body)
    (hlines : objectLines key body = .ok ls) :
    (read b src (World.start c)).fault = none ∧
      (read b src (World.start c)).lines = ls.map lineOf := by
  refine read_of_delivered b src hq hturns hlisting hlast ?_ fun pre key' post hsplit => ?_
  · rw [hkeys]
    refine delivered_cons_iff.2 ⟨ls.map lineOf, [], ?_, rfl, (List.append_nil _).symm⟩
    -- Nothing has been read before.
    have hfirst : (scriptAt c [] key).next.outcome = .ok body := hbody
    rw [outcome_of_ok hfirst, hlines]
    rfl
  · rw [hkeys] at hsplit
    obtain ⟨rfl, rfl⟩ : pre = [] ∧ key' = key := by
      cases pre with
      | nil => exact ⟨rfl, (List.cons.inj hsplit).1.symm⟩
      | cons p pre => simp at hsplit
    exact hpatient

/-- **Envelopes make a round trip through an object.** Payloads are spelled
in envelopes, one a line, with any newlines between them, and stored in
UTF-8, compressed if the key says so. Wherever the object is answered, it
hands out one line for every payload, in order, and each carries its
payload; so does the traversal of a bucket whose pages list only this
object. -/
theorem envelopes_round_trip {payloads : List String} (b : RetryBudget Float) (src : Bucket)
    (hspelled : List.Forall₂ (fun p l => Json.SpellsEnvelope p.toList l) payloads ls)
    (htext : Separates ls text) (hbytes : unpack key bytes = .ok (Utf8.encode text))
    (hbody : script.next.outcome = .ok (.bytes bytes)) (hpatient : b.IsPatient script) :
    ∃ vs, List.Forall₂ Record.Carries payloads vs ∧
      (∀ w, scriptOf w.client (.text key) = script →
        (readObject b src (.text key) w).fault = none ∧
          (readObject b src (.text key) w).lines = vs) ∧
      ∀ c k, scriptOf c (.text key) = script → c.listingScript.IsQuiet →
        (∀ i < k, Turns c i) → IsListing (answerAt c k) → isTruncated (answerAt c k) = false →
        listed c (k + 1) = [key] →
        (⟨.bucket src, b, c⟩ : Reader).traverse.fault = none ∧
          (⟨.bucket src, b, c⟩ : Reader).traverse.lines = vs := by
  have hls : ∀ l ∈ ls, '\n' ∉ l ∧ l ≠ [] := by
    clear htext
    induction hspelled with
    | nil => exact fun l hl => absurd hl List.not_mem_nil
    | cons h _ ih => exact List.forall_mem_cons.2 ⟨⟨h.newline_not_mem, h.ne_nil⟩, ih⟩
  have hlines := objectLines_of_unpack hls htext hbytes
  refine ⟨ls.map lineOf, ?_, fun w hscript => ?_,
    fun c k hscript hq hturns hlisting hlast hkeys => ?_⟩
  · rw [List.forall₂_map_right_iff]
    exact hspelled.imp fun _ _ => Record.carries_lineOf
  · exact readObject_of_objectLines hscript hpatient hbody hlines
  · subst hscript
    exact read_of_objectLines hq hturns hlisting hlast hkeys hpatient hbody hlines

end Bucket

/-! ## An object of two envelopes

The id of the first payload ends with a newline, and a character outside
the basic plane follows it. The second payload is a quote. -/

namespace Bucket.TwoEnvelopes

local instance : Bounds := .usual

/-- The characters of the first payload, as they are spelled. -/
def spelled : List Char :=
  "1234567".toList ++ (['\\', 'n'] ++
    (['\\', 'u', 'D', '8', '3', 'd', '\\', 'u', 'd', 'e', '0', '0'] ++ []))

/-- The lines of the object. -/
def envelopes : List (List Char) :=
  ['\t' :: '\x7b' :: Json.memberText "log".toList spelled [' '] [] ['\r'] [],
    '\x7b' :: Json.memberText ['\\', 'u', '0', '0', '6', 'C', 'o', 'g']
      ['\\', 'u', '0', '0', '2', '2'] [] [] [] [' ']]

/-- The payloads in them. -/
def payloads : List String := ["1234567\n😀", "\""]

/-- The text of the object, with newlines at both ends. -/
def stored : List Char := '\n' :: (envelopes.flatMap fun l => l ++ ['\n', '\n'])

/-- The client of the bucket with the object. -/
def client : Client :=
  .ofScripts [ThreeListings.page [ThreeListings.contentsOf ["a"]]] []
    [(.ofString "a", [⟨0.0, .ok (.bytes (Utf8.encode stored))⟩])]

theorem spells_spelled : Json.Spells "1234567\n😀".toList spelled := by
  have hraw : Json.Spells "1234567".toList "1234567".toList := Json.spells_of_raw (by simp)
  exact hraw.append (.cons (.short rfl) (.cons (.pair rfl rfl rfl rfl rfl) .nil))

theorem spells_envelopes :
    List.Forall₂ (fun p l => Json.SpellsEnvelope p.toList l) payloads envelopes := by
  have hname : Json.Spells "log".toList "log".toList := Json.spells_of_raw (by simp)
  have hletter : Json.Spells ['l'] ['\\', 'u', '0', '0', '6', 'C'] := .cons (.number rfl) .nil
  have hrest : Json.Spells ['o', 'g'] ['o', 'g'] := Json.spells_of_raw (by simp)
  have hquote : Json.Spells ['"'] ['\\', 'u', '0', '0', '2', '2'] := .cons (.number rfl) .nil
  refine .cons ?_ (.cons ?_ .nil)
  · exact .mk ['\t'] [] [' '] [] ['\r'] [] hname spells_spelled
      (by simp [Json.Blanks, Json.isBlank])
  · exact .mk [] [] [] [] [] [' '] (hletter.append hrest) hquote
      (by simp [Json.Blanks, Json.isBlank])

theorem separates_stored : Separates envelopes stored :=
  .newline (.line _ (.newline (.line _ (.newline .nil))))

/-- Both lines are read back to their payloads. -/
theorem envelopes_round_trip_two :
    let s := (⟨.bucket ThreeListings.bucket, ⟨1.0, 0, 0.0⟩, client⟩ : Reader).traverse
    s.fault = none ∧ ∃ first second, s.lines = [first, second] ∧
      (∃ r, Record.ofLine true first = .ok r ∧ r.id.length = 8 ∧
        r.id ++ r.rest = Text.ofString "1234567\n😀") ∧
      Record.ofLine true second = .error (.malformed (.short (.ofString "\""))) := by
  have hquiet : (scriptOf client (.text (Text.ofString "a"))).IsQuiet := ⟨by decide +kernel, rfl⟩
  have hpages : client.listingScript.IsQuiet := ⟨by decide +kernel, by decide +kernel⟩
  have hlisting : IsListing (answerAt client 0) :=
    ThreeListings.isListing_page ["a"] (.inl (by simp [ThreeListings.contentsOf]))
  have hkeys : listed client 1 = [Text.ofString "a"] := by decide +kernel
  have hbytes : unpack (Text.ofString "a") (Utf8.encode stored) = .ok (Utf8.encode stored) := rfl
  obtain ⟨vs, hcarries, -, hread⟩ := envelopes_round_trip ⟨1.0, 0, 0.0⟩ ThreeListings.bucket
    spells_envelopes separates_stored hbytes rfl (hquiet.isPatient _)
  obtain ⟨hfault, hlines⟩ := hread client 0 rfl hpages (fun i hi => absurd hi (Nat.not_lt_zero i))
    hlisting (by decide +kernel) hkeys
  cases hcarries with
  | @cons _ first _ _ hfirst hrest =>
    cases hrest with
    | @cons _ second _ _ hsecond hnil =>
      cases hnil
      exact ⟨hfault, first, second, hlines, hfirst.divided (by decide), hsecond.short (by decide)⟩

end Bucket.TwoEnvelopes

end DeliveryAudit
