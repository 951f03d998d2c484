import DeliveryAudit.Proofs.Envelope.Precedence
/-!
# Which envelopes are opened

An envelope should be opened if a text stands under one of the names of the
payload, in upper or lower case. It is opened unless another such member
hides the text (`Hidden`): one of the very name `log` that holds neither a
text nor null, or else the first one, of whatever name, if it holds no text.
So the order of the members may decide (`openEnvelope_eq_ok_iff`).
-/

namespace DeliveryAudit.Record

variable {line : Text} {written members : List (Text × Json)} {name : Text} {v : Json}

/-- A text stands under one of the names of the payload. -/
def HoldsText (members : List (Text × Json)) : Prop :=
  ∃ name p, (name, .text p) ∈ members ∧ isVariant name = true

/-- The very name of the payload is missing or null. -/
def Unnamed (members : List (Text × Json)) : Prop :=
  ∀ v, (payloadName, v) ∈ members → v = .null

/-- **What hides a text** under another name: what is no text and stands
under the very name and is not null, or stands first while the very name is
missing or null. -/
inductive Hidden (members : List (Text × Json)) : Prop
  | named {v : Json} : (payloadName, v) ∈ members → v ≠ .null → (∀ p, v ≠ .text p) → Hidden members
  | first {name : Text} {v : Json} : Unnamed members → Json.FirstOf isVariant members name →
      (name, v) ∈ members → (∀ p, v ≠ .text p) → Hidden members

/-- All members under the names of the payload hold texts, or none does. -/
def Uniform (members : List (Text × Json)) : Prop :=
  ∀ m ∈ members, ∀ n ∈ members, isVariant m.1 = true → isVariant n.1 = true →
    (∃ p, m.2 = .text p) → ∃ p, n.2 = .text p

/-! ## The member that counts -/

/-- **The member that counts**, among members of distinct names. -/
theorem payloadMember?_eq_some_iff (h : (members.map Prod.fst).Nodup) :
    payloadMember? members = some v ↔
      ((payloadName, v) ∈ members ∧ v ≠ .null) ∨
      (Unnamed members ∧ ∃ name, Json.FirstOf isVariant members name ∧ (name, v) ∈ members) := by
  by_cases hnamed : Unnamed members
  · have hnull : ∀ w, Json.member? payloadName members = some w → w = .null := fun w hw =>
      hnamed w ((Json.member?_eq_some_iff h).1 hw)
    rw [payloadMember?_of_unnamed hnull, Option.map_eq_some_iff]
    constructor
    · rintro ⟨⟨name, w⟩, hfind, rfl⟩
      exact .inr ⟨hnamed, name, (Json.find?_eq_some_iff h).1 hfind⟩
    · rintro (⟨hmem, hv⟩ | ⟨-, name, hfirst⟩)
      · exact absurd (hnamed v hmem) hv
      · exact ⟨(name, v), (Json.find?_eq_some_iff h).2 hfirst, rfl⟩
  · obtain ⟨w, hmem, hw⟩ : ∃ w, (payloadName, w) ∈ members ∧ w ≠ .null := by
      simpa [Unnamed] using hnamed
    have hmember := (Json.member?_eq_some_iff h).2 hmem
    rw [payloadMember?_of_named hmember hw]
    constructor
    · intro heq
      obtain rfl := Option.some.inj heq
      exact .inl ⟨hmem, hw⟩
    · rintro (⟨hmem', -⟩ | ⟨hnamed', -⟩)
      · exact hmember.symm.trans ((Json.member?_eq_some_iff h).2 hmem')
      · exact absurd hnamed' hnamed

/-- Where a name is that of the payload, a member counts. -/
theorem exists_payloadMember? (h : (members.map Prod.fst).Nodup) (hmem : (name, v) ∈ members)
    (hname : isVariant name = true) : ∃ w, payloadMember? members = some w := by
  by_cases hnamed : Unnamed members
  · have hsome : (members.find? fun m => isVariant m.1).isSome := by
      rw [List.find?_isSome]
      exact ⟨(name, v), hmem, hname⟩
    obtain ⟨⟨k, w⟩, hfind⟩ := Option.isSome_iff_exists.1 hsome
    have hfirst := (Json.find?_eq_some_iff h).1 hfind
    exact ⟨w, (payloadMember?_eq_some_iff h).2 (.inr ⟨hnamed, k, hfirst⟩)⟩
  · obtain ⟨w, hw⟩ : ∃ w, (payloadName, w) ∈ members ∧ w ≠ .null := by
      simpa [Unnamed] using hnamed
    exact ⟨w, (payloadMember?_eq_some_iff h).2 (.inl hw)⟩

/-- The member that counts is one under a name of the payload. -/
theorem exists_name_of_payloadMember? (h : (members.map Prod.fst).Nodup)
    (hv : payloadMember? members = some v) :
    ∃ name, (name, v) ∈ members ∧ isVariant name = true := by
  rcases (payloadMember?_eq_some_iff h).1 hv with ⟨hmem, -⟩ | ⟨-, name, hfirst, hmem⟩
  · exact ⟨payloadName, hmem, isVariant_payloadName⟩
  · obtain ⟨-, -, -, -, hname, -⟩ := hfirst
    exact ⟨name, hmem, hname⟩

/-- Texts are hidden when the member that counts holds none. -/
theorem hidden_iff (h : (members.map Prod.fst).Nodup) :
    Hidden members ↔ ∃ v, payloadMember? members = some v ∧ ∀ p, v ≠ .text p := by
  simp only [payloadMember?_eq_some_iff h]
  constructor
  · rintro (⟨hmem, hnull, hv⟩ | ⟨hnamed, hfirst, hmem, hv⟩)
    · exact ⟨_, .inl ⟨hmem, hnull⟩, hv⟩
    · exact ⟨_, .inr ⟨hnamed, _, hfirst, hmem⟩, hv⟩
  · rintro ⟨v, ⟨hmem, hnull⟩ | ⟨hnamed, name, hfirst, hmem⟩, hv⟩
    · exact .named hmem hnull hv
    · exact .first hnamed hfirst hmem hv

/-- **A text counts** when one is held and none is hidden. -/
theorem counts_text_iff (h : (members.map Prod.fst).Nodup) :
    (∃ p, payloadMember? members = some (.text p)) ↔ HoldsText members ∧ ¬ Hidden members := by
  rw [hidden_iff h]
  constructor
  · rintro ⟨p, hp⟩
    obtain ⟨name, hmem, hname⟩ := exists_name_of_payloadMember? h hp
    refine ⟨⟨name, p, hmem, hname⟩, ?_⟩
    rintro ⟨v, hv, htext⟩
    rw [hp] at hv
    exact htext p (Option.some.inj hv).symm
  · rintro ⟨⟨name, p, hmem, hname⟩, hhidden⟩
    obtain ⟨w, hw⟩ := exists_payloadMember? h hmem hname
    by_contra hnone
    exact hhidden ⟨w, hw, fun q hq => hnone ⟨q, hq ▸ hw⟩⟩

theorem counts_text_iff_of_uniform (h : (members.map Prod.fst).Nodup) (huniform : Uniform members) :
    (∃ p, payloadMember? members = some (.text p)) ↔ HoldsText members := by
  rw [counts_text_iff h, and_iff_left_iff_imp]
  rintro ⟨name, p, hmem, hname⟩ hhidden
  obtain ⟨v, hv, htext⟩ := (hidden_iff h).1 hhidden
  obtain ⟨k, hk, hvariant⟩ := exists_name_of_payloadMember? h hv
  obtain ⟨q, hq⟩ := huniform _ hmem _ hk hname hvariant ⟨p, rfl⟩
  exact htext q hq

/-! ## The order of the members -/

theorem HoldsText.perm {others : List (Text × Json)} (hperm : others.Perm members) :
    HoldsText others ↔ HoldsText members := by
  simp only [HoldsText, hperm.mem_iff]

theorem Uniform.perm {others : List (Text × Json)} (hperm : others.Perm members) :
    Uniform others ↔ Uniform members := by
  simp only [Uniform, hperm.mem_iff]

theorem Unnamed.perm {others : List (Text × Json)} (hperm : others.Perm members) :
    Unnamed others ↔ Unnamed members := by
  simp only [Unnamed, hperm.mem_iff]

/-- Where the very name is missing or null, each of the other members may be
put first, and counts then. -/
theorem exists_perm_counts (h : (members.map Prod.fst).Nodup) (hnamed : Unnamed members)
    (hmem : (name, v) ∈ members) (hname : isVariant name = true) :
    ∃ others, others.Perm members ∧ payloadMember? others = some v := by
  obtain ⟨before, after, rfl⟩ := List.append_of_mem hmem
  have hperm : ((name, v) :: (before ++ after)).Perm (before ++ (name, v) :: after) :=
    List.perm_middle.symm
  have hnodup := (hperm.map Prod.fst).nodup_iff.2 h
  have hfirst : Json.FirstOf isVariant ((name, v) :: (before ++ after)) name :=
    ⟨[], v, before ++ after, rfl, hname, nofun⟩
  refine ⟨_, hperm, (payloadMember?_eq_some_iff hnodup).2 (.inr ⟨?_, name, hfirst, ?_⟩)⟩
  · exact (Unnamed.perm hperm).2 hnamed
  · exact List.mem_cons_self

/-- **When the order does not matter**: the very name is there and not null,
or the other members agree. -/
theorem counts_text_perm_iff (h : (members.map Prod.fst).Nodup) :
    (∀ others, others.Perm members → ((∃ p, payloadMember? others = some (.text p)) ↔
      ∃ p, payloadMember? members = some (.text p))) ↔ ¬ Unnamed members ∨ Uniform members := by
  constructor
  · intro hperm
    by_contra hmixed
    simp only [not_or, not_not] at hmixed
    obtain ⟨hnamed, huniform⟩ := hmixed
    obtain ⟨m, hm, n, hn, hmv, hnv, ⟨p, hp⟩, hnone⟩ : ∃ m ∈ members, ∃ n ∈ members,
        isVariant m.1 = true ∧ isVariant n.1 = true ∧ (∃ p, m.2 = .text p) ∧
          ¬ ∃ p, n.2 = .text p := by
      simpa only [Uniform, not_forall, exists_prop] using huniform
    -- With the text put first it counts, and with the other one first that one does.
    obtain ⟨textFirst, htextFirst, htext⟩ := exists_perm_counts h hnamed hm hmv
    obtain ⟨otherFirst, hotherFirst, hother⟩ := exists_perm_counts h hnamed hn hnv
    rw [hp] at htext
    obtain ⟨q, hq⟩ := (hperm otherFirst hotherFirst).2 ((hperm textFirst htextFirst).1 ⟨p, htext⟩)
    rw [hother] at hq
    exact hnone ⟨q, Option.some.inj hq⟩
  · rintro hfree others hperm
    have hnodup := (hperm.map Prod.fst).nodup_iff.2 h
    rcases hfree with hnamed | huniform
    · -- The member of the very name counts, wherever it stands.
      have hothers : ¬ Unnamed others := fun hu => hnamed ((Unnamed.perm hperm).1 hu)
      simp only [payloadMember?_eq_some_iff h, payloadMember?_eq_some_iff hnodup, hperm.mem_iff,
        hnamed, hothers, false_and, or_false]
    · rw [counts_text_iff_of_uniform hnodup ((Uniform.perm hperm).2 huniform),
        counts_text_iff_of_uniform h huniform, HoldsText.perm hperm]

/-! ## Opening an envelope -/

theorem payloadOf_eq_ok_iff {p : Text} :
    payloadOf line (.object written) = .ok p ↔
      payloadMember? (Json.latest written) = some (.text p) := by
  rw [payloadOf]
  constructor
  · intro h
    split at h
    · rename_i t ht
      rw [ht, Except.ok.inj h]
    · cases h
  · intro h
    rw [h]

theorem payloadOf_eq_error_of_object {f : Fault} (h : payloadOf line (.object written) = .error f) :
    f = .malformed (.noPayload line) := by
  rw [payloadOf] at h
  split at h
  · cases h
  · exact (Except.error.inj h).symm

/-- **When an envelope is opened.** A line that is read as an object is
refused as one without a payload, or opened to a text that stands under a
name that agrees with `log` in lower case. It is opened just if there is such
a text that nothing hides, in particular if all values under such names are
texts. Whether it is opened is the same in every order of its members just
if the very name `log` stands there with a value that is not null, or if
either all values under such names are texts or none is. -/
theorem openEnvelope_eq_ok_iff [Bounds] (h : Json.read line = .ok (.object written)) :
    (∀ f, openEnvelope line = .error f → f = .malformed (.noPayload line)) ∧
    (∀ p, openEnvelope line = .ok p →
      ∃ name, (name, .text p) ∈ Json.latest written ∧ isVariant name = true) ∧
    ((∃ p, openEnvelope line = .ok p) ↔
      HoldsText (Json.latest written) ∧ ¬ Hidden (Json.latest written)) ∧
    (Uniform (Json.latest written) →
      ((∃ p, openEnvelope line = .ok p) ↔ HoldsText (Json.latest written))) ∧
    ((∀ members : List (Text × Json), members.Perm (Json.latest written) →
      ((∃ p, payloadOf line (.object members) = .ok p) ↔ ∃ p, openEnvelope line = .ok p)) ↔
      ¬ Unnamed (Json.latest written) ∨ Uniform (Json.latest written)) := by
  have hopen : openEnvelope line = payloadOf line (.object written) := by rw [openEnvelope, h]
  have hnodup := Json.nodup_names_latest written
  simp only [hopen, payloadOf_eq_ok_iff]
  refine ⟨fun f hf => payloadOf_eq_error_of_object hf,
    fun p hp => exists_name_of_payloadMember? hnodup hp, counts_text_iff hnodup,
    fun huniform => counts_text_iff_of_uniform hnodup huniform, ?_⟩
  rw [← counts_text_perm_iff hnodup]
  -- Members of distinct names count as they are written.
  refine forall_congr' fun members => forall_congr' fun hperm => ?_
  rw [Json.latest_of_nodup ((hperm.map Prod.fst).nodup_iff.2 hnodup)]

/-! ## A null before the text

The two orders of a null `log` and a text under `Log`. -/

namespace Reordered

open Json

local instance : Bounds := .usual

/-- The text that is held. -/
def payload : Text := Text.ofString "10000001_x"

/-- The text stands before the null. -/
def textFirst : List (Text × Json) :=
  [(Text.ofString "Log", .text payload), (Text.ofString "log", .null)]

/-- Its line. -/
def textFirstLine : Text := Text.ofString "\x7b\"Log\": \"10000001_x\", \"log\": null\x7d"

/-- The null stands before the text. -/
def nullFirst : List (Text × Json) :=
  [(Text.ofString "log", .null), (Text.ofString "Log", .text payload)]

/-- Its line. -/
def nullFirstLine : Text := Text.ofString "\x7b\"log\": null, \"Log\": \"10000001_x\"\x7d"

theorem read_textFirstLine : Json.read textFirstLine = .ok (.object textFirst) := by
  have hlog : Spells "log".toList "log".toList := spells_of_raw (by simp)
  have hother : Spells "Log".toList "Log".toList := spells_of_raw (by simp)
  have hpayload : Spells "10000001_x".toList "10000001_x".toList := spells_of_raw (by simp)
  exact read_of_spellsMembers (.spaced_cons hother (spellsValue_text _ hpayload)
    (.spaced_last hlog (spellsValue_null _)))

theorem read_nullFirstLine : Json.read nullFirstLine = .ok (.object nullFirst) := by
  have hlog : Spells "log".toList "log".toList := spells_of_raw (by simp)
  have hother : Spells "Log".toList "Log".toList := spells_of_raw (by simp)
  have hpayload : Spells "10000001_x".toList "10000001_x".toList := spells_of_raw (by simp)
  exact read_of_spellsMembers (.spaced_cons hlog (spellsValue_null _)
    (.spaced_last hother (spellsValue_text _ hpayload)))

/-- The name of the payload is null in both orders. -/
theorem unnamed_textFirst : Unnamed textFirst := by
  intro v hv
  have hne : Text.ofString "log" ≠ Text.ofString "Log" := by decide
  simpa [textFirst, payloadName, hne] using hv

theorem nodup_textFirst : (textFirst.map Prod.fst).Nodup := by decide

theorem perm_nullFirst : nullFirst.Perm textFirst := List.Perm.swap _ _ _

theorem nodup_nullFirst : (nullFirst.map Prod.fst).Nodup :=
  (perm_nullFirst.map Prod.fst).nodup_iff.2 nodup_textFirst

/-- **With the text first**, nothing hides it, and the line is opened to it. -/
theorem opened_textFirst :
    (HoldsText (latest textFirst) ∧ ¬ Hidden (latest textFirst)) ∧
      openEnvelope textFirstLine = .ok payload := by
  obtain ⟨-, hvalue, hopened, -⟩ := openEnvelope_eq_ok_iff read_textFirstLine
  rw [latest_of_nodup nodup_textFirst] at hvalue hopened ⊢
  have hholds : HoldsText textFirst := ⟨_, payload, List.mem_cons_self, isVariant_capitalized⟩
  have hfirst : FirstOf isVariant textFirst (Text.ofString "Log") :=
    ⟨[], _, _, rfl, isVariant_capitalized, nofun⟩
  have hcounts : payloadMember? textFirst = some (.text payload) :=
    (payloadMember?_eq_some_iff nodup_textFirst).2
      (.inr ⟨unnamed_textFirst, _, hfirst, List.mem_cons_self⟩)
  have hhidden : ¬ Hidden textFirst := by
    rw [hidden_iff nodup_textFirst, hcounts]
    rintro ⟨v, hv, htext⟩
    exact htext payload (Option.some.inj hv).symm
  obtain ⟨p, hp⟩ := hopened.2 ⟨hholds, hhidden⟩
  obtain ⟨name, hmem, -⟩ := hvalue p hp
  obtain ⟨-, rfl⟩ : name = Text.ofString "Log" ∧ p = payload := by simpa [textFirst] using hmem
  exact ⟨⟨hholds, hhidden⟩, hp⟩

/-- **With the null first**, the same text is held, and the line is refused. -/
theorem refused_nullFirst :
    Json.read nullFirstLine = .ok (.object nullFirst) ∧
    (Text.ofString "Log", .text payload) ∈ latest nullFirst ∧
    isVariant (Text.ofString "Log") = true ∧
    openEnvelope nullFirstLine = .error (.malformed (.noPayload nullFirstLine)) := by
  have hmem : (Text.ofString "Log", .text payload) ∈ latest nullFirst := by
    rw [latest_of_nodup nodup_nullFirst]
    exact List.mem_cons_of_mem _ List.mem_cons_self
  have hcounts : payloadMember? (latest nullFirst) = some .null := by
    rw [latest_of_nodup nodup_nullFirst, payloadMember?_eq_some_iff nodup_nullFirst]
    refine .inr ⟨(Unnamed.perm perm_nullFirst).2 unnamed_textFirst, payloadName, ?_,
      List.mem_cons_self⟩
    exact ⟨[], _, _, rfl, isVariant_payloadName, nofun⟩
  refine ⟨read_nullFirstLine, hmem, isVariant_capitalized, ?_⟩
  rw [openEnvelope_of_read read_nullFirstLine, hcounts]
  rfl

end Reordered

end DeliveryAudit.Record
