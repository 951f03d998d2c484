import DeliveryAudit.Proofs.Audit.Counting
import DeliveryAudit.Proofs.Delivery.Envelopes
import DeliveryAudit.Proofs.Destination.Cursor
import DeliveryAudit.Proofs.Destination.Listing
import DeliveryAudit.Proofs.Json.Writing
import DeliveryAudit.Proofs.Roster.Marking
import DeliveryAudit.Report
import Mathlib.Data.List.Basic
/-!
# Deliveries and their layout

The same payloads may be delivered to a bucket, cut into objects that are
listed on any number of pages (`Bucket.Holds`), or to a log stream, cut
into pages of log events (`LogStream.Holds`). An audit comes to the same
verdict either way (`verdict_of_layouts`): both readers hand out one line
for every payload, in order, from which the same record is read.
-/

namespace DeliveryAudit

variable {payloads : List String} {c : Client} {k : Nat}

/-! ## What is stored -/

/-- The line of a payload in an object. -/
def envelopeOf (payload : String) : List Char := Json.envelope (Json.write payload.toList)

/-- The text of an object with these payloads: one line for each. -/
def textOf (payloads : List String) : List Char :=
  (payloads.map envelopeOf).flatMap fun l => l ++ ['\n']

/-- An object as it is stored, with the payloads in it. It is compressed,
in whatever way, if its key says so. -/
structure StoredObject where
  key : Text
  payloads : List String
  bytes : List UInt8
  stored : if Bucket.isCompressed key then
      Gzip.decompress bytes = .ok (Utf8.encode (textOf payloads))
    else bytes = Utf8.encode (textOf payloads)

/-- **A bucket that holds these objects**, under distinct keys, listed on
the pages up to `k`. A page may list nothing. -/
structure Bucket.Holds [Bounds] (c : Client) (k : Nat) (objects : List StoredObject) : Prop where
  quiet : c.listingScript.IsQuiet
  turns : ∀ i < k, Turns c i
  listing : IsListing (answerAt c k)
  last : isTruncated (answerAt c k) = false
  keys : listed c (k + 1) = objects.map StoredObject.key
  distinct : (objects.map StoredObject.key).Nodup
  objectsQuiet : ∀ o ∈ objects, (c.objectScript o.key).IsQuiet
  bodies : ∀ o ∈ objects, (c.objectScript o.key).next.outcome = .ok (.bytes o.bytes)

/-- **A log stream that holds these payloads**, as the messages of the
pages up to `k`, where the token that was sent comes back. A page may have
no messages, but no payload is empty, since empty messages do not
count. -/
structure LogStream.Holds [Bounds] (c : Client) (k : Nat) (payloads : List String) : Prop where
  quiet : c.eventScript.IsQuiet
  goesOn : ∀ i < k, GoesOn c i
  ends : Ends c k
  messages : yielded c (k + 1) = payloads.map Value.ofString

/-! ## What is read -/

/-- The bytes of an object are unpacked to its text. -/
theorem StoredObject.unpack_bytes (o : StoredObject) :
    Bucket.unpack o.key o.bytes = .ok (Utf8.encode (textOf o.payloads)) := by
  have h := o.stored
  unfold Bucket.unpack
  split at h
  · rename_i hcompressed
    rw [if_pos hcompressed, h]
  · rename_i hplain
    rw [if_neg hplain, h]

/-- **The lines of an object** are the envelopes of its payloads. -/
theorem StoredObject.objectLines_bytes (o : StoredObject) :
    Bucket.objectLines o.key (.bytes o.bytes) = .ok (o.payloads.map envelopeOf) := by
  have hlines : Bucket.lines (textOf o.payloads) = o.payloads.map envelopeOf :=
    Bucket.lines_flatMap fun l hl => by
      obtain ⟨p, -, rfl⟩ := List.mem_map.1 hl
      have hspelled := Json.spellsEnvelope_envelope (Json.spells_write p.toList)
      exact ⟨hspelled.newline_not_mem, hspelled.ne_nil⟩
  simp only [Bucket.objectLines, o.unpack_bytes, Utf8.decode_encode, hlines, bind, Except.bind]

namespace Bucket

variable {objects : List StoredObject}

/-- The line of an object that holds a payload. -/
def lineOfPayload (payload : String) : Value := lineOf (envelopeOf payload)

variable [Bounds]

/-- An object that has not been read delivers the lines of its
payloads. -/
theorem Holds.outcome_eq (h : Holds c k objects) {o : StoredObject} {before : List StoredObject}
    (ho : o ∈ objects) (hnew : o.key ∉ before.map StoredObject.key) :
    outcome c (before.map StoredObject.key) o.key = .ok (o.payloads.map lineOfPayload) := by
  have hscript : scriptAt c (before.map StoredObject.key) o.key = c.objectScript o.key := by
    rw [scriptAt, List.count_eq_zero_of_not_mem hnew]
    rfl
  rw [outcome_of_ok (by rw [hscript]; exact h.bodies o ho), o.objectLines_bytes]
  exact congrArg Except.ok List.map_map

/-- **The objects deliver the lines of their payloads**, those before
having been read. -/
theorem Holds.delivered_eq (h : Holds c k objects) (before rest : List StoredObject)
    (hobjects : before ++ rest = objects) :
    delivered c (before.map StoredObject.key) (rest.map StoredObject.key) =
      .ok ((rest.flatMap StoredObject.payloads).map lineOfPayload) := by
  induction rest generalizing before with
  | nil => rfl
  | cons o rest ih =>
    have hnew : o.key ∉ before.map StoredObject.key := by
      have hdistinct := h.distinct
      rw [← hobjects, List.map_append, List.nodup_append] at hdistinct
      exact fun hmem => hdistinct.2.2 _ hmem _ List.mem_cons_self rfl
    have hrest := ih (before ++ [o]) (by rw [← hobjects, List.append_assoc]; rfl)
    rw [List.map_append] at hrest
    rw [List.flatMap_cons, List.map_append, List.map_cons]
    exact delivered_cons_iff.2
      ⟨_, _, h.outcome_eq (by rw [← hobjects]; simp) hnew, hrest, rfl⟩

/-- **A bucket is read to its end**, one line for every payload. -/
theorem Holds.read_eq (h : Holds c k objects) (b : RetryBudget Float) (src : Bucket) :
    (read b src (World.start c)).fault = none ∧ (read b src (World.start c)).lines =
      (objects.flatMap StoredObject.payloads).map lineOfPayload := by
  refine read_of_delivered b src h.quiet h.turns h.listing h.last ?_ fun before key post hkeys => ?_
  · rw [h.keys]
    exact h.delivered_eq [] objects rfl
  · rw [h.keys] at hkeys
    have hkey : key ∈ objects.map StoredObject.key := by
      rw [hkeys]
      exact List.mem_append_right _ List.mem_cons_self
    obtain ⟨o, ho, rfl⟩ := List.mem_map.1 hkey
    refine (scriptAt_isQuiet ?_ before).isPatient b
    exact h.objectsQuiet o ho

end Bucket

/-- **A log stream is read to its end**, one line for every payload. -/
theorem LogStream.Holds.read_eq [Bounds] (h : Holds c k payloads) (b : RetryBudget Float)
    (src : LogStream) :
    (read b src (World.start c)).fault = none ∧
      (read b src (World.start c)).lines = payloads.map Value.ofString := by
  rw [← h.messages]
  exact read_of_ends b src h.quiet h.goesOn h.ends

/-! ## What is counted -/

/-- The record of a payload, or why there is none. -/
def recordOf (payload : String) : Except Record.Fault Record :=
  Record.ofPayload (Text.ofString payload)

/-- The id of a payload. -/
def idOf (payload : String) : Text := (Text.ofString payload).take Record.idLength

/-- The record in an envelope is that of its payload. -/
theorem ofLine_lineOfPayload [Bounds] (payload : String) :
    Record.ofLine true (Bucket.lineOfPayload payload) = recordOf payload := by
  have hopen := Record.openEnvelope_spelled
    (Json.spellsEnvelope_envelope (Json.spells_write payload.toList))
  simp only [Record.ofLine, Bucket.lineOfPayload, Bucket.lineOf, envelopeOf, hopen]
  rfl

theorem recordOf_of_lt {payload : String} (h : payload.length < Record.idLength) :
    recordOf payload = .error (.malformed (.short (.ofString payload))) := by
  rw [recordOf, Record.ofPayload, Text.length_ofString, if_pos h]
  rfl

/-- **Payloads with ids are counted one after another.** -/
theorem countAll_recordOf {pre : List String} (hpre : ∀ p ∈ pre, Record.idLength ≤ p.length)
    (post : List String) (roster : Roster) :
    (Tally.start roster).countAll ((pre ++ post).map recordOf) =
      Tally.countAll ⟨(pre.map idOf).foldl Roster.mark roster, pre.length, false⟩
        (post.map recordOf) := by
  have hlong : ∀ t ∈ pre.map Text.ofString, Record.idLength ≤ t.length := by
    intro t ht
    obtain ⟨p, hp, rfl⟩ := List.mem_map.1 ht
    rw [Text.length_ofString]
    exact hpre p hp
  have hcount := Tally.countAll_payloads hlong (post.map recordOf) roster
  rw [List.map_map, List.map_map, List.length_map] at hcount
  rw [List.map_append]
  exact hcount

/-- Reports on the same figures differ only in the lines that are written
first. -/
theorem Report.ofCounts?_withSummary (totalInput totalFound : Int) (roster : Roster)
    (logDelay : String) (summary summary' : List String) :
    (ofCounts? totalInput totalFound roster logDelay summary).map
        (fun r => { r with summary := summary' }) =
      ofCounts? totalInput totalFound roster logDelay summary' := by
  unfold ofCounts?
  split
  · rfl
  · rfl

/-! ## The verdict -/

/-- What an audit comes to when its traversal hands out one line for every
payload, and has no fault. -/
theorem Audit.ofTraversal_of_lines [Bounds] (enveloped : Bool) {s : Stretch}
    {lineOf : String → Value} (hlineOf : ∀ p, Record.ofLine enveloped (lineOf p) = recordOf p)
    (hs : s.fault = none ∧ s.lines = payloads.map lineOf) (roster : Roster) :
    let counted := (Tally.start roster).countAll (payloads.map recordOf)
    (Audit.ofTraversal enveloped s roster).tally = Audit.tallyOf counted.1 counted.2 none ∧
      (Audit.ofTraversal enveloped s roster).fault = Audit.faultOf counted.2 none := by
  have hcount : Audit.count enveloped s.lines (Tally.start roster) =
      (Tally.start roster).countAll (payloads.map recordOf) := by
    rw [Audit.count, hs.2, List.map_map]
    exact congrArg _ (List.map_congr_left fun p _ => hlineOf p)
  have h := Audit.ofTraversal_eq enveloped s roster
  rw [hcount, hs.1] at h
  exact h

/-- **The verdict does not depend on the layout of a delivery**, nor on
its destination. The audits of a bucket and of a log stream that hold the
same payloads end with the same tally and the same fault. If all payloads
have ids, both count every payload and flag their ids; else both end at
the first payload without one, with the ids before it flagged. Their
reports differ at most in the lines that are written first. -/
theorem verdict_of_layouts [Bounds] {c' : Client} {k' : Nat} {objects : List StoredObject}
    (hbucket : Bucket.Holds c k objects) (hstream : LogStream.Holds c' k' payloads)
    (hcut : objects.flatMap StoredObject.payloads = payloads) (src : Bucket) (src' : LogStream)
    (b b' : RetryBudget Float) (roster : Roster) :
    let r : Reader := ⟨.bucket src, b, c⟩
    let r' : Reader := ⟨.logStream src', b', c'⟩
    let a := Audit.run r roster
    let a' := Audit.run r' roster
    a.tally = a'.tally ∧ a.fault = a'.fault ∧
      ((∀ p ∈ payloads, Record.idLength ≤ p.length) → a.fault = none ∧
        a.tally = ⟨(payloads.map idOf).foldl Roster.mark roster, payloads.length, true⟩) ∧
      (∀ pre p post, payloads = pre ++ p :: post → (∀ q ∈ pre, Record.idLength ≤ q.length) →
        p.length < Record.idLength →
          a.fault = some (.tally (.record (.malformed (.short (.ofString p))))) ∧
          a.tally = ⟨(pre.map idOf).foldl Roster.mark roster, pre.length, false⟩) ∧
      ∀ totalInput logDelay,
        (Report.ofCounts? totalInput a.tally.lines a.tally.roster logDelay
          (r.summary a.history)).map (fun report =>
            { report with summary := r'.summary a'.history }) =
          Report.ofCounts? totalInput a'.tally.lines a'.tally.roster logDelay
            (r'.summary a'.history) := by
  intro r r' a a'
  have hread := hbucket.read_eq b src
  rw [hcut] at hread
  obtain ⟨htally, hfault⟩ := Audit.ofTraversal_of_lines true ofLine_lineOfPayload hread roster
  obtain ⟨htally', hfault'⟩ := Audit.ofTraversal_of_lines false (fun _ => rfl)
    (hstream.read_eq b' src') roster
  change a.tally = _ at htally
  change a.fault = _ at hfault
  change a'.tally = _ at htally'
  change a'.fault = _ at hfault'
  refine ⟨htally.trans htally'.symm, hfault.trans hfault'.symm, ?_, ?_, ?_⟩
  · intro hlong
    have hcount := countAll_recordOf hlong [] roster
    rw [List.append_nil, List.map_nil, Tally.countAll] at hcount
    rw [htally, hfault, hcount]
    exact ⟨rfl, rfl⟩
  · rintro pre p post rfl hpre hp
    have hcount := countAll_recordOf hpre (p :: post) roster
    rw [List.map_cons, recordOf_of_lt hp, Tally.countAll] at hcount
    rw [htally, hfault, hcount]
    exact ⟨rfl, rfl⟩
  · intro totalInput logDelay
    rw [htally.trans htally'.symm]
    exact Report.ofCounts?_withSummary ..

/-! ## Two layouts of three payloads

A bucket with a plain object, a page without contents and a compressed
object, and a log stream with a page without events. -/

namespace TwoLayouts

local instance : Bounds := .usual

/-- The object that is stored as it is. -/
def plain : StoredObject where
  key := .ofString "run/a.log"
  payloads := ["10000000 \"\n", "10000001"]
  bytes := Utf8.encode (textOf ["10000000 \"\n", "10000001"])
  stored := by rw [if_neg (by decide)]

/-- The object that is compressed. -/
def packed : StoredObject where
  key := .ofString "run/b.gz"
  payloads := ["10000002 \u2603\u2603\u2603\u2603"]
  bytes := [31, 139, 8, 0, 0, 0, 0, 0, 2, 3, 171, 86, 202, 201, 79, 87, 178, 82, 80, 50, 52, 0, 3,
    35, 133, 152, 82, 35, 51, 3, 99, 76, 82, 169, 150, 11, 0, 172, 209, 187, 10, 45, 0, 0, 0]
  stored := by
    rw [if_pos (by decide)]
    decide +kernel

/-- The payloads, in order. -/
def delivery : List String := plain.payloads ++ packed.payloads

/-- A page of log events with these messages. -/
def eventPage (messages : List String) (token : String) : Answer Float Value :=
  LogStream.ThreePages.page (messages.map LogStream.ThreePages.event) token

open Bucket.ThreeListings in
/-- The client that has both layouts. -/
def client : Client :=
  .ofScripts
    [page (contentsOf ["run/a.log"] :: more "t/1"), page (more "t/2"),
      page [contentsOf ["run/b.gz"]]]
    [eventPage (delivery.take 1) "f/1", eventPage [] "f/2", eventPage (delivery.drop 1) "f/2"]
    [(plain.key, [⟨0.0, .ok (.bytes plain.bytes)⟩]),
      (packed.key, [⟨0.0, .ok (.bytes packed.bytes)⟩])]

theorem bucket_holds : Bucket.Holds client 2 [plain, packed] where
  quiet := ⟨by simp [client, Client.ofScripts, Client.listingScript, Bucket.ThreeListings.page],
    by decide +kernel⟩
  turns i hi := by
    obtain rfl | rfl : i = 0 ∨ i = 1 := by omega
    · exact ⟨Bucket.ThreeListings.isListing_page ["run/a.log"]
        (.inl (by simp [Bucket.ThreeListings.contentsOf])), by decide +kernel, by decide +kernel⟩
    · exact ⟨Bucket.ThreeListings.isListing_page [] (.inr ⟨by decide +kernel, rfl⟩),
        by decide +kernel, by decide +kernel⟩
  listing := Bucket.ThreeListings.isListing_page ["run/b.gz"]
    (.inl (by simp [Bucket.ThreeListings.contentsOf]))
  last := by decide +kernel
  keys := by decide +kernel
  distinct := by decide +kernel
  objectsQuiet o ho := by
    obtain rfl | rfl : o = plain ∨ o = packed := by simpa using ho
    · exact ⟨fun a ha => (by cases ha), by decide +kernel⟩
    · exact ⟨fun a ha => (by cases ha), by decide +kernel⟩
  bodies o ho := by
    obtain rfl | rfl : o = plain ∨ o = packed := by simpa using ho
    · rfl
    · rfl

theorem isPage_eventPage (messages : List String) (token : String) :
    LogStream.IsPage (eventPage messages token) := by
  refine ⟨_, messages.map LogStream.ThreePages.event, rfl, ?_, ?_⟩
  · simp [LogStream.events, Stretch.parts?]
  · intro e he
    obtain ⟨m, -, rfl⟩ := List.mem_map.1 he
    rfl

theorem messages_eventPage {messages : List String} (h : ∀ m ∈ messages, m ≠ "")
    (token : String) :
    LogStream.messages (eventPage messages token) = messages.map Value.ofString := by
  have hevents : LogStream.eventsOf (eventPage messages token) =
      messages.map LogStream.ThreePages.event := by
    simp [LogStream.eventsOf, eventPage, LogStream.ThreePages.page, Answer.entries,
      LogStream.events, Stretch.parts?]
  rw [LogStream.messages, hevents, List.filterMap_map, ← List.filterMap_eq_map]
  refine List.filterMap_congr fun m hm => ?_
  simp [LogStream.ThreePages.event, LogStream.lineOf?, Value.isTruthy_ofString, h m hm]

theorem stream_holds : LogStream.Holds client 2 delivery where
  quiet := ⟨by simp [client, Client.ofScripts, Client.eventScript, eventPage,
    LogStream.ThreePages.page], by decide +kernel⟩
  goesOn i hi := by
    obtain rfl | rfl : i = 0 ∨ i = 1 := by omega
    · exact ⟨isPage_eventPage _ _, by decide +kernel, by decide +kernel⟩
    · exact ⟨isPage_eventPage _ _, by decide +kernel, by decide +kernel⟩
  ends := ⟨isPage_eventPage _ _, by decide +kernel, _, rfl, by decide +kernel⟩
  messages := by
    have hne : ∀ m ∈ delivery, m ≠ "" := by decide +kernel
    change LogStream.messages (eventPage (delivery.take 1) "f/1") ++
      (LogStream.messages (eventPage [] "f/2") ++
        (LogStream.messages (eventPage (delivery.drop 1) "f/2") ++ [])) = _
    rw [messages_eventPage fun m hm => hne m (List.mem_of_mem_take hm),
      messages_eventPage fun m hm => (by cases hm),
      messages_eventPage fun m hm => hne m (List.mem_of_mem_drop hm)]
    rfl

/-- The roster of the delivered ids and of one more. -/
def roster : Roster :=
  .ofIds (["10000000", "10000001", "10000002", "10000003"].map Text.ofString)

/-- Both layouts hold the three payloads, and their audits count them
alike: one id of four is missing. -/
theorem verdict_twoLayouts : Bucket.Holds client 2 [plain, packed] ∧
    LogStream.Holds client 2 delivery ∧
    [plain, packed].flatMap StoredObject.payloads = delivery ∧
    (let a := Audit.run ⟨.bucket ⟨"logs", "run/"⟩, ⟨1.0, 0, 0.0⟩, client⟩ roster
    let a' := Audit.run ⟨.logStream ⟨"group", "stream"⟩, ⟨1.0, 0, 0.0⟩, client⟩ roster
    a.tally = a'.tally ∧ a.tally.lines = 3 ∧
      a.tally.roster.missing = [Text.ofString "10000003"]) := by
  have hcut : [plain, packed].flatMap StoredObject.payloads = delivery := rfl
  obtain ⟨hsame, -, hlong, -⟩ := verdict_of_layouts bucket_holds stream_holds hcut
    ⟨"logs", "run/"⟩ ⟨"group", "stream"⟩ ⟨1.0, 0, 0.0⟩ ⟨1.0, 0, 0.0⟩ roster
  obtain ⟨-, htally⟩ := hlong (by decide +kernel)
  refine ⟨bucket_holds, stream_holds, hcut, hsame, ?_, ?_⟩
  · rw [htally]
    rfl
  · rw [htally]
    exact (Roster.missing_marks _ _).trans (by decide +kernel)

end TwoLayouts

end DeliveryAudit
