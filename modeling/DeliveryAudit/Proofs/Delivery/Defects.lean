import DeliveryAudit.Proofs.CommandLine.Faults
import DeliveryAudit.Proofs.Compression.Members
import DeliveryAudit.Proofs.Destination.Converses
/-!
# Defects of delivered objects

An object that a service answers with has lines, or a defect. Most defects
are faults that a run accounts for: bytes that are no text, a file that is
no gzip file, a body that the transport or the system fails to bring. Three
are not (`Bucket.Escapes`): an answer without a body, a refusal while the
body is read, and a compressed object whose deflated data are corrupt. A
traversal stops at the first object with a defect, so that the program
tells of it, or lets it escape (`Bucket.defects_of_objects`).
-/

namespace DeliveryAudit

/-- Whether a body is one that a service answers with: none, or one that
brings bytes or an error of the service, the transport or the system. -/
def Body.IsAnswer : Body → Prop
  | absent => True
  | bytes _ => True
  | unreadable (.refused _ _) => True
  | unreadable (.transport _) => True
  | unreadable (.system _ _) => True
  | unreadable _ => False

/-- Whether a traversal fails by a fault of the destination or of a text
in it. -/
def TraversalFault.IsClassified : TraversalFault → Prop
  | destination _ => True
  | notText _ _ => True
  | _ => False

theorem RunFault.isFailure_of_isClassified {f : TraversalFault} (h : f.IsClassified) :
    (RunFault.audit (.traversal f)).isFailure = true := by
  cases f with
  | destination => rfl
  | notText => rfl
  | _ => exact h.elim

theorem RunFault.isFailure_of_not_isClassified {f : TraversalFault} (h : ¬ f.IsClassified) :
    (RunFault.audit (.traversal f)).isFailure = false := by
  cases f with
  | destination => exact absurd trivial h
  | notText => exact absurd trivial h
  | _ => rfl

namespace Bucket

/-- **The defects that nothing accounts for.** -/
inductive Escapes (key : Text) : Body → TraversalFault → Prop
  /-- The answer has no body. -/
  | absent : Escapes key .absent (.shape (.missing "Body"))
  /-- The service refuses to go on while the body is read. -/
  | refused (response : List (Value × Value)) (operation : String) :
      Escapes key (.unreadable (.refused response operation))
        (.foreign (.refused response operation))
  /-- Behind intact members there is one with a whole header, and what
  follows the header cannot be inflated. -/
  | corrupt {bytes rest deflated : List UInt8} {c : Inflate.Corruption} :
      isCompressed key = true → Gzip.Behind bytes rest → Gzip.skipHeader rest = .ok deflated →
      Inflate.inflate deflated = .error (.corrupt c) → Escapes key (.bytes bytes) (.corrupt c)

variable {key : Text} {body : Body} {f : TraversalFault}

theorem Escapes.not_isClassified (h : Escapes key body f) : ¬ f.IsClassified := by
  cases h <;> exact id

/-- Unpacking fails for a file that is no gzip file, or for corrupt data. -/
theorem unpack_eq_error {bytes : List UInt8} (h : unpack key bytes = .error f) :
    f.IsClassified ∨ Escapes key (.bytes bytes) f := by
  unfold unpack at h
  split at h
  · next hcompressed =>
    cases hcontents : Gzip.decompress bytes with
    | ok contents =>
      rw [hcontents] at h
      cases h
    | error g =>
      rw [hcontents] at h
      cases g with
      | data c =>
        cases h
        obtain ⟨rest, hbehind, hmember⟩ := Gzip.decompress_eq_data.1 hcontents
        obtain ⟨deflated, hheader, hinflate⟩ := Gzip.member_eq_data.1 hmember
        exact .inr (.corrupt hcompressed hbehind hheader hinflate)
      | _ =>
        cases h
        exact .inl trivial
  · cases h

/-- **A defect is classified, or it escapes.** -/
theorem classified_or_escapes (hbody : body.IsAnswer) (h : objectLines key body = .error f) :
    f.IsClassified ∨ Escapes key body f := by
  cases body with
  | absent =>
    cases h
    exact .inr .absent
  | unreadable e =>
    cases e with
    | refused response operation =>
      cases h
      exact .inr (.refused response operation)
    | transport text =>
      cases h
      exact .inl trivial
    | system name text =>
      cases h
      exact .inl trivial
    | _ => exact hbody.elim
  | bytes bytes =>
    rw [objectLines] at h
    cases hcontents : unpack key bytes with
    | error g =>
      rw [hcontents] at h
      cases h
      exact unpack_eq_error hcontents
    | ok contents =>
      rw [hcontents] at h
      cases htext : Utf8.decode contents with
      | ok text =>
        simp only [Bind.bind, Except.bind, htext] at h
        cases h
      | error g =>
        simp only [Bind.bind, Except.bind, htext] at h
        cases h
        exact .inl trivial

/-- All of these are defects, and each of them escapes. -/
theorem Escapes.objectLines_eq (h : Escapes key body f) : objectLines key body = .error f := by
  cases h with
  | absent => rfl
  | refused response operation => rfl
  | corrupt hcompressed hbehind hheader hinflate =>
    have hmember := Gzip.member_eq_data.2 ⟨_, hheader, hinflate⟩
    have hcontents := Gzip.decompress_eq_data.2 ⟨_, hbehind, hmember⟩
    rw [objectLines, unpack, if_pos hcompressed, hcontents]
    rfl

/-- The lines of an object are handed out, or its defect is the fault. -/
theorem readBody_cases (key : Text) (body : Body) (w : World) :
    (∃ ls, objectLines key body = .ok ls ∧ (readBody (.text key) body w).lines = ls.map lineOf ∧
      (readBody (.text key) body w).fault = none) ∨
    ∃ f, objectLines key body = .error f ∧ (readBody (.text key) body w).lines = [] ∧
      (readBody (.text key) body w).fault = some f := by
  rw [readBody, Stretch.happen_andThen, keyText]
  cases hlines : objectLines key body with
  | error f => exact .inr ⟨f, rfl, rfl, rfl⟩
  | ok ls =>
    refine .inl ⟨ls, rfl, ?_, rfl⟩
    have hlines : (ls.map lineEvent).filterMap Event.line? = ls.map lineOf := by
      rw [map_lineEvent, Stretch.lines_map_line]
    rw [Stretch.lines_after]
    exact hlines

variable [Bounds]

/-- **What becomes of the defects of objects.** An object that a service
answers with has lines, which are handed out, or a defect, which is the
fault of the traversal, whatever else the service answers. The defect is
classified, and then the program tells of it and returns 1, unless it is
one of those that escape; these end the program with the fault. A line
before the object may have ended the audit, and then that line decides. -/
theorem defects_of_objects (key : Text) {body : Body} (hbody : body.IsAnswer) :
    (∀ w, (∃ ls, objectLines key body = .ok ls ∧
        (readBody (.text key) body w).lines = ls.map lineOf ∧
        (readBody (.text key) body w).fault = none) ∨
      ∃ f, objectLines key body = .error f ∧ (readBody (.text key) body w).lines = [] ∧
        (readBody (.text key) body w).fault = some f) ∧
    (∀ f, objectLines key body = .error f → (f.IsClassified ↔ ¬ Escapes key body f)) ∧
    (∀ f, Escapes key body f → objectLines key body = .error f) ∧
    ∀ words host a name (q : Run.Prepared (Program.orderOf a) host),
      Arguments.ofWords words = .ok a →
      ⟨.getObject name (.text key), .ok (.object body)⟩ ∈
        q.reader.client.exchanges q.reader.traverse.requests →
      ∀ f, objectLines key body = .error f →
        q.reader.traverse.fault = some f ∧
        ((∃ g, q.audit.fault = some (.tally g)) ∨
          (¬ Escapes key body f →
            Program.Tells (Program.ofWords words host) (.audit (.traversal f))) ∧
          (Escapes key body f →
            (Program.ofWords words host).ending = .escaped (.audit (.traversal f)))) := by
  have hclassified : ∀ f, objectLines key body = .error f →
      (f.IsClassified ↔ ¬ Escapes key body f) := fun f hf =>
    ⟨fun h hescapes => hescapes.not_isClassified h,
      fun h => (classified_or_escapes hbody hf).resolve_right h⟩
  refine ⟨readBody_cases key body, hclassified, fun f h => h.objectLines_eq, ?_⟩
  intro words host a name q ha hx f hf
  have hdefect : Exchange.defect? ⟨.getObject name (.text key), .ok (.object body)⟩ = some f := by
    simp only [Exchange.defect?, keyText, hf]
  have hfault : q.reader.traverse.fault = some f :=
    q.reader.converses_traverse.heeds _ hx f hdefect
  refine ⟨hfault, (q.fault_of_traverse hfault).imp_right fun haudit => ⟨fun h => ?_, fun h => ?_⟩⟩
  · exact Program.tells_of_isFailure ha q haudit
      (RunFault.isFailure_of_isClassified ((hclassified f hf).2 h))
  · exact Program.ending_of_not_isFailure ha q haudit
      (RunFault.isFailure_of_not_isClassified h.not_isClassified)

end Bucket

/-! ## One object

A page lists one object, whose answer has this body. -/

namespace Bucket.OneObject

local instance : Bounds := .usual

/-- The key of the object. -/
def batch : Text := Text.ofString "batch.gz"

/-- What the page says. -/
def page : List (Value × Value) :=
  [(.ofString "Contents", .list [.mapping [(.ofString "Key", .text batch)]])]

/-- The client with the page and the object. -/
def client (body : Body) : Client :=
  .ofScripts [⟨0.0, .ok (.mapping page)⟩] [] [(batch, [⟨0.0, .ok body⟩])]

/-- A host of the client. -/
def host (body : Body) : Host where
  environment := .ofList [("AWS_REGION", "us-east-1"), ("S3_BUCKET_NAME", "bucket"),
    ("CW_LOG_GROUP_NAME", "group"), ("LOG_PREFIX", "stream"), ("DESTINATION", "s3")]
  opener _ := .error .notFound
  makeClient _ _ := .ok (client body)

/-- The arguments. -/
def arguments : Arguments := ⟨1, .text "0s", none, false, by decide⟩

theorem ofWords_arguments : Arguments.ofWords ["1", "0s"] = .ok arguments := rfl

/-- The run up to its audit. -/
def prepared (body : Body) : Run.Prepared (Program.orderOf arguments) (host body) where
  file := SettingsFile.absent
  settings := ⟨"us-east-1", "bucket", "group", "stream", "s3", 10000000, RetryBudget.usual⟩
  roster := Roster.ofIds (Roster.idsFrom 10000000 1)
  reader := ⟨.bucket ⟨"bucket", "stream"⟩, RetryBudget.usual, client body⟩
  read := rfl
  set := rfl
  ranged := rfl
  made := rfl

theorem contents_page : contents page = .ok [.mapping [(.ofString "Key", .text batch)]] := by
  rw [page, contents, Value.entry?_cons, if_pos rfl]
  rfl

theorem key?_object : key? (.mapping [(.ofString "Key", .text batch)]) = .ok (.text batch) := by
  rw [key?, Value.entry?_cons, if_pos rfl]

variable {body : Body} {f : TraversalFault}

/-- The answer to the request for the object is what its script holds. -/
theorem readObject_client {b : RetryBudget Float} {w : World}
    (hw : w.client = { client body with listings := [] }) :
    ∃ w', readObject b ⟨"bucket", "stream"⟩ (.text batch) w =
      Stretch.after [.called (.getObject "bucket" (.text batch))]
        (readBody (.text batch) body w') := by
  obtain ⟨c, clock, pages, objects⟩ := w
  cases hw
  exact ⟨_, rfl⟩

/-- The page is the answer to the only request for one. -/
theorem traverse_prepared : ∃ w next, w.client = { client body with listings := [] } ∧
    (prepared body).reader.traverse =
      Stretch.after [.called (.listObjects "bucket" "stream" none)]
        (readAnswer RetryBudget.usual ⟨"bucket", "stream"⟩ next (.mapping page) w) :=
  ⟨_, _, rfl, rfl⟩

variable (h : objectLines batch body = .error f)

include h

theorem readObject_of_error {b : RetryBudget Float} {w : World}
    (hw : w.client = { client body with listings := [] }) :
    ∃ w', readObject b ⟨"bucket", "stream"⟩ (.text batch) w =
      ⟨[.called (.getObject "bucket" (.text batch)), .object], some f, w'⟩ := by
  obtain ⟨w', hanswered⟩ := @readObject_client body b w hw
  rw [hanswered, readBody, Stretch.happen_andThen, keyText, h]
  exact ⟨_, rfl⟩

/-- An object with a defect is the last that is asked for. -/
theorem traverse_of_error : ∃ note w', (prepared body).reader.traverse =
    ⟨[.called (.listObjects "bucket" "stream" none), .page, .logged note,
      .called (.getObject "bucket" (.text batch)), .object], some f, w'⟩ := by
  obtain ⟨w, next, hw, hlisting⟩ := @traverse_prepared body
  obtain ⟨w', hobject⟩ := @readObject_of_error body f h RetryBudget.usual
    { w with pages := w.pages + 1 } hw
  rw [hlisting]
  simp only [readAnswer, Stretch.members?, readPage, contents_page, readObjects, key?_object,
    hobject, Stretch.happen_andThen, Stretch.fault_andThen]
  exact ⟨_, _, rfl⟩

theorem exchanged_of_error : ⟨.getObject "bucket" (.text batch), .ok (.object body)⟩ ∈
    (prepared body).reader.client.exchanges (prepared body).reader.traverse.requests := by
  obtain ⟨note, w', htraverse⟩ := traverse_of_error h
  rw [htraverse]
  exact List.mem_cons_of_mem _ List.mem_cons_self

/-- No line has ended the audit before. -/
theorem fault_of_error : (prepared body).audit.fault = some (.traversal f) := by
  obtain ⟨note, w', htraverse⟩ := traverse_of_error h
  rw [Run.Prepared.audit, Audit.run, htraverse]
  rfl

omit h

/-- A file that ends in its header. -/
def truncated : Body := .bytes [0x1F, 0x8B, 8]

/-- A file that ends too early is told of. -/
theorem defects_truncated : truncated.IsAnswer ∧
    Program.Tells (Program.ofWords ["1", "0s"] (host truncated))
      (.audit (.traversal (.destination (.notGzip batch .ended)))) := by
  have hdefect : objectLines batch truncated = .error (.destination (.notGzip batch .ended)) := rfl
  have hanswer : truncated.IsAnswer := trivial
  obtain ⟨-, hclassified, -, hprogram⟩ := defects_of_objects batch hanswer
  have hended := (hprogram _ _ _ _ (prepared truncated) ofWords_arguments
    (exchanged_of_error hdefect) _ hdefect).2
  rcases hended with ⟨g, hg⟩ | ⟨htells, -⟩
  · rw [fault_of_error hdefect] at hg
    cases hg
  · exact ⟨trivial, htells ((hclassified _ hdefect).1 trivial)⟩

/-- A file whose only block is of a kind that there is not. -/
def corrupt : Body := .bytes [0x1F, 0x8B, 8, 0, 0, 0, 0, 0, 0, 3, 7]

/-- Corrupt data escape: nobody is told of a failure. -/
theorem corrupt_escapes : corrupt.IsAnswer ∧
    let p := Program.ofWords ["1", "0s"] (host corrupt)
    p.ending = .escaped (.audit (.traversal (.corrupt .blockType))) ∧
      p.ending ≠ .returned 1 ∧ ∀ f, ¬ Program.Tells p f := by
  have hcontents : Gzip.decompress [0x1F, 0x8B, 8, 0, 0, 0, 0, 0, 0, 3, 7] =
      .error (.data .blockType) := by decide +kernel
  have hdefect : objectLines batch corrupt = .error (.corrupt .blockType) := by
    rw [corrupt, objectLines, unpack, if_pos (by decide), hcontents]
    rfl
  have hending := Program.ending_of_not_isFailure ofWords_arguments (prepared corrupt)
    (fault_of_error hdefect) rfl
  refine ⟨trivial, hending, ?_, fun f htells => ?_⟩
  · rw [hending]
    intro h
    cases h
  · rw [htells.ending] at hending
    cases hending

end Bucket.OneObject

end DeliveryAudit
