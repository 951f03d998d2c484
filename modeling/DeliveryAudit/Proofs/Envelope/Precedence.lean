import DeliveryAudit.Proofs.Delivery.Envelopes
import DeliveryAudit.Proofs.Json.Members
/-!
# Which member holds the payload

An envelope is opened to the value of one of its members: the one whose name
is `log`, unless its value is null; else the one whose name is the first to
agree with this in lower case. Of a name that is written more than once the
last value counts (`Record.payload_precedence`).
-/

namespace DeliveryAudit

namespace Record

variable {line : Text} {written : List (Text × Json)} {name : Text} {v : Json}

/-- Whether a name agrees with that of the payload in lower case. -/
def isVariant (name : Text) : Bool := name.lower == payloadName

/-- The very name is one of these. -/
theorem isVariant_payloadName : isVariant payloadName = true := by decide +kernel

theorem isVariant_capitalized : isVariant (Text.ofString "Log") = true := by decide +kernel

/-- The payload that a member holds, if it is a text. -/
def payloadIn (line : Text) (v : Json) : Except Fault Text :=
  match v with
  | .text p => .ok p
  | _ => .error (.malformed (.noPayload line))

theorem payloadIn_of_not_text (h : ∀ p, v ≠ .text p) :
    payloadIn line v = .error (.malformed (.noPayload line)) := by
  cases v with
  | text p => exact absurd rfl (h p)
  | _ => rfl

/-- An object is opened to the payload in the member that counts. -/
theorem openEnvelope_of_read [Bounds] (h : Json.read line = .ok (.object written)) :
    openEnvelope line = (payloadMember? (Json.latest written)).elim
      (.error (.malformed (.noPayload line))) (payloadIn line) := by
  have hopen : openEnvelope line = payloadOf line (.object written) := by rw [openEnvelope, h]
  rw [hopen, payloadOf]
  cases hmember : payloadMember? (Json.latest written) with
  | none => rfl
  | some v => cases v <;> rfl

/-- **The member of the very name** counts, unless it is null. -/
theorem payloadMember?_of_named {members : List (Text × Json)}
    (h : Json.member? payloadName members = some v) (hv : v ≠ .null) :
    payloadMember? members = some v := by
  rw [payloadMember?, h]
  cases v with
  | null => exact absurd rfl hv
  | _ => rfl

/-- **Otherwise the first variant** counts. -/
theorem payloadMember?_of_unnamed {members : List (Text × Json)}
    (h : ∀ v, Json.member? payloadName members = some v → v = .null) :
    payloadMember? members = (members.find? fun m => isVariant m.1).map Prod.snd := by
  rw [payloadMember?]
  cases hnamed : Json.member? payloadName members with
  | none => rfl
  | some v =>
    obtain rfl := h v hnamed
    rfl

/-- **Which value counts as written.** -/
theorem payloadMember?_latest_of_first (h : ∀ m ∈ written, m.1 ≠ payloadName)
    (hfirst : Json.FirstOf isVariant written name) (hlast : Json.LastOf written name v) :
    payloadMember? (Json.latest written) = some v := by
  have hunnamed : ∀ v, Json.member? payloadName (Json.latest written) = some v → v = .null := by
    intro v hv
    obtain ⟨before, after, hwritten, -⟩ := Json.member?_latest_eq_some_iff.1 hv
    exact absurd rfl (h (payloadName, v) (by simp [hwritten]))
  rw [payloadMember?_of_unnamed hunnamed, Json.find?_latest_eq_some_iff.2 ⟨hfirst, hlast⟩]
  rfl

/-- Where no name is a variant, no value counts. -/
theorem payloadMember?_latest_of_none (h : ∀ m ∈ written, isVariant m.1 = false) :
    payloadMember? (Json.latest written) = none := by
  have hfind : (Json.latest written).find? (fun m => isVariant m.1) = none := by
    rw [Json.find?_latest, List.find?_eq_none.2 fun m hm => by simp [h m hm]]
    rfl
  have hunnamed : ∀ v, Json.member? payloadName (Json.latest written) = some v → v = .null := by
    intro v hv
    obtain ⟨before, after, hwritten, -⟩ := Json.member?_latest_eq_some_iff.1 hv
    have hvariant : isVariant payloadName = false := h (payloadName, v) (by simp [hwritten])
    rw [isVariant_payloadName] at hvariant
    cases hvariant
  rw [payloadMember?_of_unnamed hunnamed, hfind]
  rfl

/-- **Which member holds the payload.** In a line that is read as an object, a
text that is the last value written for the very name `log` is the payload,
whatever else is written. Where this name is not written, the first name that
agrees with it in lower case decides: the last value written for that name is
the payload if it is a text, and otherwise the line is malformed, whatever
the other members are. Without such a name the line is malformed. -/
theorem payload_precedence [Bounds] (h : Json.read line = .ok (.object written)) :
    (∀ p, Json.LastOf written payloadName (.text p) → openEnvelope line = .ok p) ∧
    ((∀ m ∈ written, m.1 ≠ payloadName) →
      (∀ name, Json.FirstOf isVariant written name →
        (∀ p, Json.LastOf written name (.text p) → openEnvelope line = .ok p) ∧
        ∀ v, Json.LastOf written name v → (∀ p, v ≠ .text p) →
          openEnvelope line = .error (.malformed (.noPayload line))) ∧
      ((∀ m ∈ written, m.1.lower ≠ payloadName) →
        openEnvelope line = .error (.malformed (.noPayload line)))) := by
  have hopen := openEnvelope_of_read h
  refine ⟨fun p hlast => ?_, fun hunnamed => ⟨fun name hfirst => ⟨fun p hlast => ?_,
    fun v hlast hv => ?_⟩, fun hnone => ?_⟩⟩
  · have hnamed := Json.member?_latest_eq_some_iff.2 hlast
    rw [hopen, payloadMember?_of_named hnamed nofun]
    rfl
  · rw [hopen, payloadMember?_latest_of_first hunnamed hfirst hlast]
    rfl
  · rw [hopen, payloadMember?_latest_of_first hunnamed hfirst hlast]
    exact payloadIn_of_not_text hv
  · have hvariant : ∀ m ∈ written, isVariant m.1 = false := fun m hm =>
      beq_eq_false_iff_ne.2 (hnone m hm)
    rw [hopen, payloadMember?_latest_of_none hvariant]
    rfl

/-! ## Repeated names

Two lines in which a name is written twice: the very name after a variant,
and a variant around another one. -/

namespace Repeated

open Json

local instance : Bounds := .usual

/-- The first value of `log` is an object with a member `log` of its own. -/
def named : List (Text × Json) :=
  [(Text.ofString "LOG", .text (Text.ofString "a")),
    (Text.ofString "log", .object [(Text.ofString "log", .text (Text.ofString "b"))]),
    (Text.ofString "log", .text (Text.ofString "10000001_"))]

/-- Its line. -/
def namedLine : Text := Text.ofString
  "\x7b\"LOG\": \"a\", \"log\": \x7b\"log\": \"b\"\x7d, \"log\": \"10000001_\"\x7d"

/-- The first variant is written again, with another variant between. -/
def unnamed : List (Text × Json) :=
  [(Text.ofString "Log", .text (Text.ofString "a")), (Text.ofString "LOG", .null),
    (Text.ofString "Log", .text (Text.ofString "10000002_"))]

/-- Its line. -/
def unnamedLine : Text := Text.ofString
  "\x7b\"Log\": \"a\", \"LOG\": null, \"Log\": \"10000002_\"\x7d"

theorem read_namedLine : Json.read namedLine = .ok (.object named) := by
  have hlog : Spells "log".toList "log".toList := spells_of_raw (by simp)
  have hupper : Spells "LOG".toList "LOG".toList := spells_of_raw (by simp)
  have ha : Spells "a".toList "a".toList := spells_of_raw (by simp)
  have hb : Spells "b".toList "b".toList := spells_of_raw (by simp)
  have hpayload : Spells "10000001_".toList "10000001_".toList := spells_of_raw (by simp)
  have hinner :=
    spellsValue_object (.spaced_last hlog (spellsValue_text (Bounds.brackets - 2) hb)) blanks_nil
  exact read_of_spellsMembers (.spaced_cons hupper (spellsValue_text _ ha)
    (.spaced_cons hlog hinner (.spaced_last hlog (spellsValue_text _ hpayload))))

theorem read_unnamedLine : Json.read unnamedLine = .ok (.object unnamed) := by
  have hfirst : Spells "Log".toList "Log".toList := spells_of_raw (by simp)
  have hupper : Spells "LOG".toList "LOG".toList := spells_of_raw (by simp)
  have ha : Spells "a".toList "a".toList := spells_of_raw (by simp)
  have hpayload : Spells "10000002_".toList "10000002_".toList := spells_of_raw (by simp)
  exact read_of_spellsMembers (.spaced_cons hfirst (spellsValue_text _ ha)
    (.spaced_cons hupper (spellsValue_null _)
      (.spaced_last hfirst (spellsValue_text _ hpayload))))

/-- The last value of the deciding name is the payload. -/
theorem precedence_repeated :
    (LastOf named payloadName (.text (Text.ofString "10000001_")) ∧
      openEnvelope namedLine = .ok (Text.ofString "10000001_")) ∧
    (∀ m ∈ unnamed, m.1 ≠ payloadName) ∧ FirstOf isVariant unnamed (Text.ofString "Log") ∧
    LastOf unnamed (Text.ofString "Log") (.text (Text.ofString "10000002_")) ∧
    openEnvelope unnamedLine = .ok (Text.ofString "10000002_") := by
  have hlast : LastOf named payloadName (.text (Text.ofString "10000001_")) :=
    ⟨named.take 2, [], rfl, nofun⟩
  have hunnamed : ∀ m ∈ unnamed, m.1 ≠ payloadName := by
    simp only [unnamed, List.forall_mem_cons]
    refine ⟨by decide, by decide, by decide, nofun⟩
  have hfirst : FirstOf isVariant unnamed (Text.ofString "Log") :=
    ⟨[], _, unnamed.drop 1, rfl, isVariant_capitalized, nofun⟩
  have hlastVariant : LastOf unnamed (Text.ofString "Log") (.text (Text.ofString "10000002_")) :=
    ⟨unnamed.take 2, [], rfl, nofun⟩
  have hnamed : openEnvelope namedLine = .ok (Text.ofString "10000001_") :=
    (payload_precedence read_namedLine).1 _ hlast
  refine ⟨⟨hlast, hnamed⟩, hunnamed, hfirst, hlastVariant, ?_⟩
  exact (((payload_precedence read_unnamedLine).2 hunnamed).1 _ hfirst).1 _ hlastVariant

end Repeated

end Record

end DeliveryAudit
