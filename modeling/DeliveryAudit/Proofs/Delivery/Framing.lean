import DeliveryAudit.Proofs.Delivery.Defects
import DeliveryAudit.Proofs.Delivery.RoundTrip
import DeliveryAudit.Proofs.Text.Validity
import Mathlib.Logic.Relation
/-!
# Framing of lines in objects

The lines of an object are the pieces of its bytes between newlines, where
these are not empty, each decoded on its own (`Frames`). So a newline between
two objects does as well as one inside an object, and a delivery may be cut at
any newlines. Bytes that are no text have no lines at all: they end the
traversal behind the lines of the objects before (`framed_by_newlines`).
-/

namespace DeliveryAudit

namespace Bucket

variable {text text' l : List Char} {ls ls' : List (List Char)} {contents x y bytes : List UInt8}
variable {key : Text} {f : TraversalFault} {b : RetryBudget Float} {src : Bucket} {c : Client}

/-! ## The lines of a text -/

/-- A text loses a newline at its start, at its end, or behind another one. -/
inductive Loses : List Char → List Char → Prop
  | leading (text : List Char) : Loses ('\n' :: text) text
  | trailing (text : List Char) : Loses (text ++ ['\n']) text
  | repeated (text text' : List Char) :
      Loses (text ++ '\n' :: '\n' :: text') (text ++ '\n' :: text')

/-- **A newline between texts** ends the lines of the first. -/
theorem lines_append (text text' : List Char) :
    lines (text ++ '\n' :: text') = lines text ++ lines text' := by
  rw [lines, List.splitOn_append_cons_self, List.filter_append]
  rfl

/-- Lines have no newlines, and are not empty. -/
theorem forall_mem_lines (text : List Char) : ∀ l ∈ lines text, l ≠ [] ∧ '\n' ∉ l := by
  have hlast : ∀ l, '\n' ∉ l → ∀ l' ∈ lines l, l' ≠ [] ∧ '\n' ∉ l' := by
    intro l hl l' hl'
    rw [lines, List.splitOn_eq_singleton hl] at hl'
    obtain ⟨hmem, hne⟩ := List.mem_filter.1 hl'
    obtain rfl := List.mem_singleton.1 hmem
    exact ⟨by simpa using hne, hl⟩
  induction text using Utf8.newline_induction with
  | last l hl => exact hlast l hl
  | line l text hl ih =>
    rw [lines_append]
    exact List.forall_mem_append.2 ⟨hlast l hl, ih⟩

/-- A text is a text with its lines. -/
theorem separates_lines (text : List Char) : Separates (lines text) text := by
  induction text using Utf8.newline_induction with
  | last l hl =>
    by_cases hne : l = []
    · subst hne
      exact .nil
    · rw [lines_singleton hl hne]
      exact .last l
  | line l text hl ih =>
    by_cases hne : l = []
    · subst hne
      rw [List.nil_append, lines_newline]
      exact .newline ih
    · rw [lines_append_newline hl hne]
      exact .line l ih

theorem Loses.line (h : Loses text text') (l : List Char) :
    Loses (l ++ '\n' :: text) (l ++ '\n' :: text') := by
  cases h with
  | leading => exact .repeated l _
  | trailing =>
    rw [← List.cons_append, ← List.append_assoc]
    exact .trailing _
  | repeated text text' =>
    rw [← List.cons_append, ← List.append_assoc, ← List.cons_append, ← List.append_assoc]
    exact .repeated _ _

/-- **Lines joined by newlines** are the text up to newlines at its ends and
repeated ones. -/
theorem Separates.loses (h : Separates ls text) :
    Relation.ReflTransGen Loses text (['\n'].intercalate ls) := by
  induction h with
  | nil => exact .refl
  | newline _ ih => exact .head (.leading _) ih
  | last l => rw [List.intercalate_singleton]
  | @line l ls text _ ih =>
    have hlift : Relation.ReflTransGen Loses (l ++ '\n' :: text)
        (l ++ '\n' :: ['\n'].intercalate ls) := ih.lift (l ++ '\n' :: ·) fun _ _ h => h.line l
    cases ls with
    | nil =>
      rw [List.intercalate_nil] at hlift
      rw [List.intercalate_singleton]
      exact hlift.tail (.trailing l)
    | cons l' ls =>
      rw [List.intercalate_cons_cons, List.append_assoc]
      exact hlift

/-! ## The lines of an object -/

/-- The pieces of the contents of an object between newlines, where these are
not empty. -/
def pieces (contents : List UInt8) : List (List UInt8) :=
  (contents.splitOn Utf8.newline).filter (!·.isEmpty)

/-- **How contents are framed** as lines: these are the pieces, each decoded
on its own, and joined they are the text again. -/
structure Frames (contents : List UInt8) (text : List Char) (ls : List (List Char)) : Prop where
  decoded : (pieces contents).map Utf8.decode = ls.map .ok
  lines : ∀ l ∈ ls, l ≠ [] ∧ '\n' ∉ l
  joined : Relation.ReflTransGen Loses text (['\n'].intercalate ls)

theorem pieces_encode (text : List Char) :
    pieces (Utf8.encode text) = (lines text).map Utf8.encode := by
  rw [pieces, Utf8.splitOn_encode, List.filter_map]
  refine congrArg _ (List.filter_congr fun l _ => ?_)
  rw [Function.comp, Utf8.isEmpty_encode]

theorem frames_lines (text : List Char) : Frames (Utf8.encode text) text (lines text) where
  decoded := by
    rw [pieces_encode, List.map_map]
    exact List.map_congr_left fun l _ => Utf8.decode_encode l
  lines := forall_mem_lines text
  joined := (separates_lines text).loses

/-- An object has lines just if its contents are text. -/
theorem objectLines_eq_ok_iff (h : unpack key bytes = .ok contents) :
    objectLines key (.bytes bytes) = .ok ls ↔
      ∃ text, contents = Utf8.encode text ∧ ls = lines text := by
  simp only [objectLines, h, bind, Except.bind]
  cases hdecode : Utf8.decode contents with
  | ok text =>
    obtain rfl := Utf8.decode_eq_ok_iff.1 hdecode
    constructor
    · rintro ⟨⟩
      exact ⟨text, rfl, rfl⟩
    · rintro ⟨text', htext, rfl⟩
      rw [Utf8.encode_injective htext]
  | error f =>
    constructor
    · rintro ⟨⟩
    · rintro ⟨text, rfl, -⟩
      rw [Utf8.decode_encode] at hdecode
      cases hdecode

/-- Contents that are no text make a fault of the object. -/
theorem objectLines_of_not_text (h : unpack key bytes = .ok contents)
    (hne : ∀ text, contents ≠ Utf8.encode text) :
    ∃ f, objectLines key (.bytes bytes) = .error (.notText key f) := by
  obtain ⟨f, hf⟩ := Utf8.decode_eq_error_iff.2 hne
  exact ⟨f, by simp only [objectLines, h, hf, bind, Except.bind]⟩

/-- **Objects may be joined** by a newline. -/
theorem objectLines_append_iff {key₁ key₂ : Text} {bytes₁ bytes₂ : List UInt8}
    (h : unpack key bytes = .ok (x ++ Utf8.newline :: y)) (hx : unpack key₁ bytes₁ = .ok x)
    (hy : unpack key₂ bytes₂ = .ok y) :
    objectLines key (.bytes bytes) = .ok ls ↔ ∃ ls₁ ls₂,
      objectLines key₁ (.bytes bytes₁) = .ok ls₁ ∧ objectLines key₂ (.bytes bytes₂) = .ok ls₂ ∧
        ls = ls₁ ++ ls₂ := by
  simp only [objectLines_eq_ok_iff h, objectLines_eq_ok_iff hx, objectLines_eq_ok_iff hy]
  constructor
  · rintro ⟨text, htext, rfl⟩
    obtain ⟨first, second, rfl, rfl, rfl⟩ := Utf8.encode_eq_append_newline htext.symm
    exact ⟨_, _, ⟨first, rfl, rfl⟩, ⟨second, rfl, rfl⟩, lines_append _ _⟩
  · rintro ⟨_, _, ⟨first, rfl, rfl⟩, ⟨second, rfl, rfl⟩, rfl⟩
    exact ⟨first ++ '\n' :: second, (Utf8.encode_newline _ _).symm, (lines_append _ _).symm⟩

/-! ## The lines of a delivery -/

variable [Bounds]

/-- **Objects that bring these contents**, when they are read one after
another behind others. -/
inductive Brings (c : Client) : List Text → List Text → List (List UInt8) → Prop
  | nil (before : List Text) : Brings c before [] []
  | cons {before keys : List Text} {key : Text} {bytes contents : List UInt8}
      {more : List (List UInt8)} :
      (scriptAt c before key).next.outcome = .ok (.bytes bytes) →
      unpack key bytes = .ok contents → Brings c (before ++ [key]) keys more →
      Brings c before (key :: keys) (contents :: more)

variable {before keys pre post : List Text} {xs : List (List UInt8)} {vs : List Value} {i k : Nat}

theorem outcome_of_unpack (h : (scriptAt c before key).next.outcome = .ok (.bytes bytes))
    (hbytes : unpack key bytes = .ok (Utf8.encode text)) :
    outcome c before key = .ok ((lines text).map lineOf) := by
  rw [outcome_of_ok h, (objectLines_eq_ok_iff hbytes).2 ⟨text, rfl, rfl⟩]
  rfl

/-- **The lines of objects** are those of their contents joined by
newlines. -/
theorem Brings.delivered_eq (h : Brings c before keys xs)
    (htext : [Utf8.newline].intercalate xs = Utf8.encode text) :
    delivered c before keys = .ok ((lines text).map lineOf) := by
  induction h generalizing text with
  | nil =>
    obtain rfl : text = [] := Utf8.encode_injective (htext.symm.trans rfl)
    rw [lines_nil]
    rfl
  | @cons before keys key bytes contents more hbody hbytes _ ih =>
    cases more with
    | nil =>
      rw [List.intercalate_singleton] at htext
      subst htext
      have hrest : delivered c (before ++ [key]) keys = .ok ((lines []).map lineOf) := ih rfl
      rw [lines_nil] at hrest
      exact delivered_cons_iff.2
        ⟨_, _, outcome_of_unpack hbody hbytes, hrest, (List.append_nil _).symm⟩
    | cons y more =>
      rw [List.intercalate_cons_cons, List.append_assoc] at htext
      obtain ⟨first, rest, rfl, rfl, hrest⟩ := Utf8.encode_eq_append_newline htext.symm
      refine delivered_cons_iff.2 ⟨_, _, outcome_of_unpack hbody hbytes, ih hrest, ?_⟩
      rw [lines_append, List.map_append]

/-! ## Listings -/

/-- **A listing up to a page**: nothing is throttled, and the pages before it
turn. -/
structure ListsUpTo (c : Client) (k : Nat) : Prop where
  quiet : c.listingScript.IsQuiet
  turns : ∀ i < k, Turns c i
  listing : IsListing (answerAt c k)

/-- The budget is patient with the calls for these objects. -/
def PatientWith (b : RetryBudget Float) (c : Client) (keys : List Text) : Prop :=
  ∀ pre key post, keys = pre ++ key :: post → b.IsPatient (scriptAt c pre key)

/-- Among objects that deliver lines, each has lines. -/
theorem exists_outcome_eq (h : delivered c before (pre ++ key :: post) = .ok vs) :
    ∃ us, outcome c (before ++ pre) key = .ok us := by
  obtain ⟨_, _, -, hkey, -⟩ := delivered_append_iff.1 h
  obtain ⟨us, _, hus, -⟩ := delivered_cons_iff.1 hkey
  exact ⟨us, hus⟩

theorem PatientWith.of_append (h : PatientWith b c (keys ++ post)) : PatientWith b c keys :=
  fun pre key rest hkeys => h pre key (rest ++ post) (by rw [hkeys, List.append_assoc]; rfl)

/-- A budget is patient where nothing is throttled. -/
theorem patientWith_of_isQuiet (b : RetryBudget Float)
    (h : ∀ key ∈ keys, (scriptOf c (.text key)).IsQuiet) : PatientWith b c keys := by
  rintro pre key post rfl
  exact (scriptAt_isQuiet (h key (List.mem_append_right _ List.mem_cons_self)) pre).isPatient b

/-- The first object without lines is the one that ends a traversal. -/
theorem ObjectFault.eq_of_delivered {pre' post' : List Text} {key' : Text} {vs' : List Value}
    {a : Nat} (hvs : delivered c before pre = .ok vs) (hvs' : delivered c before pre' = .ok vs')
    (hob : ObjectFault b c (before ++ pre') key' a f)
    (hkeys : pre ++ key :: post = pre' ++ key' :: post')
    (hpatient : PatientWith b c (before ++ pre))
    (hne : ∀ us, outcome c (before ++ pre) key ≠ .ok us) : pre = pre' ∧ key = key' := by
  rcases List.append_eq_append_iff.1 hkeys with
    ⟨_ | ⟨k, more⟩, rfl, hrest⟩ | ⟨_ | ⟨k, more⟩, rfl, hrest⟩
  · exact ⟨(List.append_nil _).symm, (List.cons.inj hrest).1⟩
  · -- It would be among the objects that have lines.
    obtain ⟨rfl, -⟩ := List.cons.inj hrest
    obtain ⟨us, hus⟩ := exists_outcome_eq hvs'
    exact absurd hus (hne us)
  · exact ⟨List.append_nil _, (List.cons.inj hrest).1.symm⟩
  · obtain ⟨rfl, -⟩ := List.cons.inj hrest
    obtain ⟨us, hus⟩ := exists_outcome_eq hvs
    exact absurd hus (hob.outcome_ne (hpatient _ _ _ (List.append_assoc _ _ _).symm) us)

/-- The fault of an object that is answered. -/
theorem ObjectFault.eq_of_body {g : TraversalFault} {a : Nat} {body : Body}
    (h : ObjectFault b c before key a g) (hb : b.IsPatient (scriptAt c before key))
    (hbody : (scriptAt c before key).next.outcome = .ok body)
    (hf : objectLines key body = .error f) : g = f := by
  cases h with
  | unreadable hbody' hg =>
    obtain rfl := Except.ok.inj (hbody'.symm.trans hbody)
    exact Except.error.inj (hg.symm.trans hf)
  | failed _ hbody' => cases hbody'.symm.trans hbody
  | gaveUp hgives => exact absurd hb hgives.not_isPatient

/-- The lines of a traversal that an object ends. -/
theorem StopsAtObject.lines_eq {s : Stretch} (h : StopsAtObject b src c i s)
    (hkeys : keysAt c i = pre ++ key :: post)
    (hpatient : PatientWith b c (listed c i ++ pre ++ [key]))
    (hvs : delivered c [] (listed c i ++ pre) = .ok vs) {body : Body}
    (hbody : (scriptAt c (listed c i ++ pre) key).next.outcome = .ok body)
    (hf : objectLines key body = .error f) : s.fault = some f ∧ s.lines = vs := by
  obtain @⟨pre', post', key', us, a, n, g, hfault, hkeys', hus, hob, hrep⟩ := h
  have hpage : (listed c i ++ pre) ++ key :: post = (listed c i ++ pre') ++ key' :: post' := by
    rw [List.append_assoc, List.append_assoc, ← hkeys, ← hkeys']
  have hne : ∀ us, outcome c (listed c i ++ pre) key ≠ .ok us := fun us hus => by
    rw [outcome_of_ok hbody, hf] at hus
    cases hus
  obtain ⟨hpre, rfl⟩ := ObjectFault.eq_of_delivered hvs hus hob hpage hpatient.of_append hne
  obtain rfl := List.append_cancel_left hpre
  obtain rfl := hob.eq_of_body (hpatient _ _ _ rfl) hbody hf
  obtain rfl := Except.ok.inj (hus.symm.trans hvs)
  refine ⟨hfault, ?_⟩
  rw [Stretch.lines, hrep.lines_eq, List.filterMap_append, lines_history hus,
    List.filterMap_cons_none rfl, List.filterMap_replicate_of_none rfl, List.append_nil]

/-- **An object without lines** ends the traversal behind the lines of the
objects before it. -/
theorem read_of_error {body : Body} (src : Bucket) (h : ListsUpTo c i)
    (hkeys : keysAt c i = pre ++ key :: post)
    (hpatient : PatientWith b c (listed c i ++ pre ++ [key]))
    (hvs : delivered c [] (listed c i ++ pre) = .ok vs)
    (hbody : (scriptAt c (listed c i ++ pre) key).next.outcome = .ok body)
    (hf : objectLines key body = .error f) :
    (read b src (World.start c)).fault = some f ∧ (read b src (World.start c)).lines = vs := by
  obtain ⟨n, hread⟩ := exists_read_eq b src h.turns
  rw [hread]
  rcases readPages_run b src h.quiet h.turns (n + 1) with ⟨j, hj, hstop⟩ | ⟨es, w, hr, heq⟩
  · -- All the objects on the pages before have lines.
    obtain ⟨i, rfl⟩ := Nat.exists_eq_succ_of_ne_zero (Nat.ne_zero_of_lt hj)
    obtain ⟨us, _, hus, -⟩ := delivered_append_iff.1 hvs
    rw [List.append_assoc] at hpatient
    exact absurd hus (hstop.not_delivered (Nat.le_of_lt_succ hj) hpatient.of_append us)
  · rw [heq]
    rcases hr.page h.quiet h.listing n with hstop | ⟨es', w', ⟨-, ⟨us, hus⟩, -⟩, -⟩
    · exact hstop.lines_eq hkeys hpatient hvs hbody hf
    · -- Not all the objects on this page have lines.
      rw [listed_succ, hkeys, ← List.append_assoc] at hus
      obtain ⟨us, hus⟩ := exists_outcome_eq hus
      rw [List.nil_append, outcome_of_ok hbody, hf] at hus
      cases hus

/-- **Lines are framed by newlines.** The contents of an object, unpacked if
its key says so, are the text of its lines: these are the pieces between
newlines, where they are not empty, each decoded on its own, and nothing but a
newline ends one. Contents joined by a newline have the lines of both, so that
objects hand out the lines of all their contents joined by newlines, however
these are cut into objects. Contents that are no text have no line: they are
the fault of the traversal, and a failure that a run accounts for, behind just
the lines of the objects before. -/
theorem framed_by_newlines :
    (∀ key bytes text, unpack key bytes = .ok (Utf8.encode text) →
      ∃ ls, objectLines key (.bytes bytes) = .ok ls ∧ Frames (Utf8.encode text) text ls ∧
        (∀ w, (readBody (.text key) (.bytes bytes) w).lines = ls.map lineOf ∧
          (readBody (.text key) (.bytes bytes) w).fault = none) ∧
        (text ≠ [] → '\n' ∉ text → ls = [text])) ∧
    (∀ key key₁ key₂ bytes bytes₁ bytes₂ x y,
      unpack key bytes = .ok (x ++ Utf8.newline :: y) → unpack key₁ bytes₁ = .ok x →
      unpack key₂ bytes₂ = .ok y → ∀ ls, objectLines key (.bytes bytes) = .ok ls ↔
        ∃ ls₁ ls₂, objectLines key₁ (.bytes bytes₁) = .ok ls₁ ∧
          objectLines key₂ (.bytes bytes₂) = .ok ls₂ ∧ ls = ls₁ ++ ls₂) ∧
    (∀ b src c k xs text, ListsUpTo c k → isTruncated (answerAt c k) = false →
      PatientWith b c (listed c (k + 1)) → Brings c [] (listed c (k + 1)) xs →
      [Utf8.newline].intercalate xs = Utf8.encode text →
      (⟨.bucket src, b, c⟩ : Reader).traverse.fault = none ∧
        (⟨.bucket src, b, c⟩ : Reader).traverse.lines = (lines text).map lineOf) ∧
    ∀ key bytes contents, unpack key bytes = .ok contents →
      (∀ text, contents ≠ Utf8.encode text) →
      ∃ f, objectLines key (.bytes bytes) = .error (.notText key f) ∧
        (RunFault.audit (.traversal (.notText key f))).isFailure = true ∧
        (∀ w, (readBody (.text key) (.bytes bytes) w).lines = [] ∧
          (readBody (.text key) (.bytes bytes) w).fault = some (.notText key f)) ∧
        ∀ b src c i pre post vs, ListsUpTo c i → keysAt c i = pre ++ key :: post →
          PatientWith b c (listed c i ++ pre ++ [key]) →
          delivered c [] (listed c i ++ pre) = .ok vs →
          (scriptAt c (listed c i ++ pre) key).next.outcome = .ok (.bytes bytes) →
          (⟨.bucket src, b, c⟩ : Reader).traverse.fault = some (.notText key f) ∧
            (⟨.bucket src, b, c⟩ : Reader).traverse.lines = vs := by
  refine ⟨?_, ?_, ?_, ?_⟩
  · intro key bytes text hbytes
    have hlines := (objectLines_eq_ok_iff hbytes).2 ⟨text, rfl, rfl⟩
    refine ⟨lines text, hlines, frames_lines text, fun w => ?_,
      fun hne hnewline => lines_singleton hnewline hne⟩
    rcases readBody_cases key (.bytes bytes) w with ⟨ls, hls, hread⟩ | ⟨f, hf, -⟩
    · obtain rfl := Except.ok.inj (hls.symm.trans hlines)
      exact hread
    · cases hf.symm.trans hlines
  · intro key key₁ key₂ bytes bytes₁ bytes₂ x y h hx hy ls
    exact objectLines_append_iff h hx hy
  · intro b src c k xs text hlists hlast hpatient hbrings htext
    exact read_of_delivered b src hlists.quiet hlists.turns hlists.listing hlast
      (hbrings.delivered_eq htext) hpatient
  · intro key bytes contents hbytes hne
    obtain ⟨f, hf⟩ := objectLines_of_not_text hbytes hne
    refine ⟨f, hf, rfl, fun w => ?_, fun b src c i pre post vs hlists hkeys hpatient hvs hbody =>
      read_of_error src hlists hkeys hpatient hvs hbody hf⟩
    rcases readBody_cases key (.bytes bytes) w with ⟨ls, hls, -⟩ | ⟨g, hg, hread⟩
    · cases hls.symm.trans hf
    · obtain rfl := Except.error.inj (hg.symm.trans hf)
      exact hread

end Bucket

/-! ## Two objects

The first holds a line separator and a newline, which stay and go. The second
holds a newline and a line, or bytes that are no text behind a line. -/

namespace Bucket.TwoObjects

local instance : Bounds := .usual

/-- What the first object holds. -/
def first : List Char := ['x', '\u2028', '\n']

/-- What the second object holds. -/
def second : List Char := ['\n', 'y']

/-- A line, a newline, and a byte that starts no character of the next. -/
def broken : List UInt8 := [0x7A, 0x0A, 0xC3, 0x28]

/-- The bytes of the second object. -/
def body (isText : Bool) : List UInt8 := if isText then Utf8.encode second else broken

/-- The client of a page with the two objects. -/
def client (isText : Bool) : Client :=
  .ofScripts [ThreeListings.page [ThreeListings.contentsOf ["a", "b"]]] []
    [(.ofString "a", [⟨0.0, .ok (.bytes (Utf8.encode first))⟩]),
      (.ofString "b", [⟨0.0, .ok (.bytes (body isText))⟩])]

/-- The reader of the bucket. -/
def reader (isText : Bool) : Reader :=
  ⟨.bucket ThreeListings.bucket, RetryBudget.usual, client isText⟩

/-- The keys of the objects. -/
def names : List Text := [Text.ofString "a", Text.ofString "b"]

variable (isText : Bool)

theorem listsUpTo_client : ListsUpTo (client isText) 0 where
  quiet := ⟨by simp [client, Client.ofScripts, Client.listingScript, ThreeListings.page],
    by revert isText; decide +kernel⟩
  turns i hi := absurd hi (Nat.not_lt_zero i)
  listing := ThreeListings.isListing_page ["a", "b"] (.inl (by simp [ThreeListings.contentsOf]))

theorem keysAt_client : keysAt (client isText) 0 = names := by
  revert isText
  decide +kernel

theorem isQuiet_client : ∀ key ∈ names, (scriptOf (client isText) (.text key)).IsQuiet := by
  intro key hkey
  simp only [names, List.mem_cons, List.not_mem_nil, or_false] at hkey
  rcases hkey with rfl | rfl
  · exact ⟨by revert isText; decide +kernel, rfl⟩
  · exact ⟨by revert isText; decide +kernel, rfl⟩

theorem brings_client : Brings (client isText) [] names [Utf8.encode first, body isText] :=
  .cons rfl rfl (.cons rfl rfl (.nil _))

theorem decode_broken : Utf8.decode broken = .error ⟨2, 1, 0xC3, .continuation⟩ := by
  decide +kernel

/-- The newlines between the two lines are no lines, and neither is the line
before the bytes that are no text. -/
theorem framed_two :
    (reader true).traverse.fault = none ∧
    (reader true).traverse.lines = [lineOf ['x', '\u2028'], lineOf ['y']] ∧
    (∃ f, (reader false).traverse.fault = some (.notText (Text.ofString "b") f)) ∧
    (reader false).traverse.lines = [lineOf ['x', '\u2028']] := by
  obtain ⟨-, -, hwhole, hbroken⟩ := framed_by_newlines
  have hlisted : listed (client true) 1 = names := by
    rw [listed_succ, keysAt_client]
    rfl
  obtain ⟨hfault, hlines⟩ := hwhole RetryBudget.usual ThreeListings.bucket (client true) 0 _
    (first ++ '\n' :: second) (listsUpTo_client true) (by decide +kernel)
    (by rw [hlisted]; exact patientWith_of_isQuiet _ (isQuiet_client true))
    (by rw [hlisted]; exact brings_client true) (by decide +kernel)
  obtain ⟨f, -, -, -, hread⟩ := hbroken (Text.ofString "b") broken broken rfl
    (Utf8.decode_eq_error_iff.1 ⟨_, decode_broken⟩)
  have hfirst : Brings (client false) [] [Text.ofString "a"] [Utf8.encode first] :=
    .cons rfl rfl (.nil _)
  have hlast : [Utf8.newline].intercalate [Utf8.encode first] = Utf8.encode first := rfl
  obtain ⟨hfault', hlines'⟩ := hread RetryBudget.usual ThreeListings.bucket (client false) 0
    [Text.ofString "a"] [] [lineOf ['x', '\u2028']] (listsUpTo_client false) (keysAt_client false)
    (patientWith_of_isQuiet _ (isQuiet_client false)) (hfirst.delivered_eq hlast) rfl
  exact ⟨hfault, hlines, ⟨f, hfault'⟩, hlines'⟩

end Bucket.TwoObjects

end DeliveryAudit
