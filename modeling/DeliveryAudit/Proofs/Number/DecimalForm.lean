import DeliveryAudit.Number.Numeral
import Mathlib.Algebra.Group.Nat.Defs
import Mathlib.Data.List.Basic
import Mathlib.Data.List.Induction
import Mathlib.Data.List.TakeWhile
/-!
# Decimal forms

The decimal form of an integer is a run of digits, of which the first is a
zero only if it is the only one, after a minus sign if the integer is
negative. This is what writing an integer gives, and nothing else is one
(`Number.isDecimalForm_iff`), so that every integer has one form and no form
has two integers. A form of no more than the permitted digits is read as its
integer (`Number.integer_of_isDecimalForm`).
-/

namespace DeliveryAudit

namespace Number

/-- Digits without a zero in front, unless it is the only digit. -/
structure IsCanonical (ds : List Char) : Prop where
  ne_nil : ds ≠ []
  isDigit : ∀ d ∈ ds, d.isDigit = true
  eq_of_head : ds.head? = some '0' → ds = ['0']

/-- **The decimal form of an integer.** Zero has no sign. -/
inductive IsDecimalForm : Text → Int → Prop
  | natural {ds : List Char} : IsCanonical ds → IsDecimalForm (ds.map .scalar) (decimalValue ds)
  | negative {ds : List Char} : IsCanonical ds → ds ≠ ['0'] →
      IsDecimalForm (.scalar '-' :: ds.map .scalar) (-(decimalValue ds))

variable {ds cs : List Char} {d c : Char} {t : Text} {n : Nat} {m : Int}

/-! ## Digits and their value -/

theorem isDigit_bounds (h : d.isDigit = true) : 48 ≤ d.toNat ∧ d.toNat ≤ 57 := by
  simp only [Char.isDigit, Bool.and_eq_true, decide_eq_true_eq] at h
  exact ⟨h.1, h.2⟩

theorem decimalValue_toDigits (n : Nat) : decimalValue (Nat.toDigits 10 n) = n :=
  Nat.ofDigitChars_ten_toDigits

/-- Digits are characters of ASCII, and not blank. -/
theorem isDigit_plain (h : d.isDigit = true) :
    d.toNat < 0x7F ∧ Text.isAsciiBlank d.toNat = false := by
  obtain ⟨hlow, hhigh⟩ := isDigit_bounds h
  simp only [Text.isAsciiBlank, Bool.or_eq_false_iff, Bool.and_eq_false_iff,
    beq_eq_false_iff_ne, decide_eq_false_iff_not]
  omega

theorem decimalValue_concat (ds : List Char) (d : Char) :
    decimalValue (ds ++ [d]) = 10 * decimalValue ds + (d.toNat - 48) := by
  rw [decimalValue, List.foldl_append]
  rfl

/-- A digit is the form of its value. -/
theorem toDigits_digit (h : d.isDigit = true) : Nat.toDigits 10 (d.toNat - 48) = [d] := by
  obtain ⟨hlow, hhigh⟩ := isDigit_bounds h
  have hlt : d.toNat - 48 < 10 := by omega
  have hchar : (d.toNat - 48).digitChar.toNat = d.toNat := by
    rw [Nat.toNat_digitChar_of_lt_ten hlt]
    omega
  rw [Nat.toDigits_of_lt_base hlt, Char.toNat_inj.1 hchar]

/-- **The digits of a number** start with a zero only for zero. -/
theorem isCanonical_toDigits (n : Nat) : IsCanonical (Nat.toDigits 10 n) where
  ne_nil := Nat.toDigits_ne_nil
  isDigit _ hd := Nat.isDigit_of_mem_toDigits (by decide) (by decide) hd
  eq_of_head := by
    -- The first digit stays the first when the last one is cut off.
    induction n using Nat.strongRecOn with
    | ind n ih =>
      intro hhead
      rcases Nat.lt_or_ge n 10 with hlt | hge
      · rw [Nat.toDigits_of_lt_base hlt] at hhead ⊢
        rw [Option.some.inj hhead]
      · rw [Nat.toDigits_of_base_le (by decide) hge,
          List.head?_append_of_ne_nil _ Nat.toDigits_ne_nil] at hhead
        have hzero := ih (n / 10) (by omega) hhead
        have hvalue : n / 10 = 0 := by
          rw [← decimalValue_toDigits (n / 10), hzero]
          rfl
        omega

/-- **Canonical digits are those of their value.** -/
theorem toDigits_decimalValue (h : IsCanonical ds) : Nat.toDigits 10 (decimalValue ds) = ds := by
  induction ds using List.reverseRecOn with
  | nil => exact absurd rfl h.ne_nil
  | append_singleton ds d ih =>
    have hd : d.isDigit = true := h.isDigit d (List.mem_append_right _ List.mem_cons_self)
    rcases eq_or_ne ds [] with rfl | hne
    · rw [decimalValue_concat]
      exact (congrArg (Nat.toDigits 10) (Nat.zero_add _)).trans (toDigits_digit hd)
    · -- With a digit after them, the others do not start with a zero.
      have hhead : ds.head? ≠ some '0' := by
        intro hzero
        have htwo := h.eq_of_head (by rw [List.head?_append_of_ne_nil _ hne, hzero])
        have hlength := congrArg List.length htwo
        rw [List.length_append, List.length_singleton, List.length_singleton] at hlength
        exact hne (List.length_eq_zero_iff.1 (by omega))
      have hds : Nat.toDigits 10 (decimalValue ds) = ds :=
        ih ⟨hne, fun x hx => h.isDigit x (List.mem_append_left _ hx), fun hx => absurd hx hhead⟩
      have hpos : 0 < decimalValue ds := by
        refine Nat.pos_of_ne_zero fun hzero => hhead ?_
        rw [← hds, hzero, Nat.toDigits_zero]
        rfl
      obtain ⟨hlow, hhigh⟩ := isDigit_bounds hd
      rw [decimalValue_concat, ← Nat.toDigits_append_toDigits (by decide) hpos (by omega), hds,
        toDigits_digit hd]

theorem decimalValue_pos (h : IsCanonical ds) (hne : ds ≠ ['0']) : 0 < decimalValue ds := by
  refine Nat.pos_of_ne_zero fun hzero => hne ?_
  rw [← toDigits_decimalValue h, hzero, Nat.toDigits_zero]

/-- A bound on the value bounds the number of digits. -/
theorem IsCanonical.length_le (h : IsCanonical ds) {k : Nat} (hk : 0 < k)
    (hvalue : decimalValue ds < 10 ^ k) : ds.length ≤ k := by
  rw [← toDigits_decimalValue h]
  exact (Nat.length_toDigits_le_iff (by decide) hk).2 hvalue

/-! ## The form of an integer -/

theorem ofString_toString_natCast (n : Nat) :
    Text.ofString (toString (n : Int)) = (Nat.toDigits 10 n).map .scalar := by
  change Text.ofString (toString n) = _
  rw [Nat.toString_eq_ofList_toDigits, Text.ofString, String.toList_ofList]

theorem ofString_toString_neg (hn : 0 < n) :
    Text.ofString (toString (-(n : Int))) =
      .scalar '-' :: (Nat.toDigits 10 n).map .scalar := by
  change Text.ofString (-(n : Int)).repr = _
  have hneg : ¬ 0 ≤ -(n : Int) := by omega
  rw [Int.repr_eq_if, if_neg hneg, Int.neg_neg, Int.toNat_natCast, Nat.repr_eq_ofList_toDigits]
  simp only [Text.ofString, String.toList_append, String.toList_ofList, List.map_append]
  rfl

/-- **Writing an integer** gives its decimal form, and no other text is
one. -/
theorem isDecimalForm_iff : IsDecimalForm t m ↔ t = Text.ofString (toString m) := by
  constructor
  · intro h
    cases h with
    | natural hds => rw [ofString_toString_natCast, toDigits_decimalValue hds]
    | negative hds hne =>
      rw [ofString_toString_neg (decimalValue_pos hds hne), toDigits_decimalValue hds]
  · rintro rfl
    rcases Int.eq_nat_or_neg m with ⟨n, rfl | rfl⟩
    · have hform := IsDecimalForm.natural (isCanonical_toDigits n)
      rwa [decimalValue_toDigits, ← ofString_toString_natCast] at hform
    · rcases Nat.eq_zero_or_pos n with rfl | hn
      · exact .natural (isCanonical_toDigits 0)
      · have hne : Nat.toDigits 10 n ≠ ['0'] := by
          intro hzero
          have hvalue := decimalValue_toDigits n
          rw [hzero] at hvalue
          exact absurd hvalue (Nat.ne_of_lt hn)
        have hform := IsDecimalForm.negative (isCanonical_toDigits n) hne
        rwa [decimalValue_toDigits, ← ofString_toString_neg hn] at hform

/-! ## Reading a form -/

theorem foldCharacter_scalar (h : c.toNat < 0x7F) : foldCharacter (.scalar c) = some c := by
  simp only [foldCharacter, CodePoint.value, if_pos h, Char.ofNat_toNat]

theorem trimBlanks_of_forall (h : ∀ c ∈ cs, Text.isAsciiBlank c.toNat = false) :
    trimBlanks cs = cs := by
  have hdrop : ∀ l : List Char, (∀ c ∈ l, c ∈ cs) →
      l.dropWhile (fun c => Text.isAsciiBlank c.toNat) = l := by
    intro l hl
    rw [List.dropWhile_eq_self_iff]
    intro hpos
    rw [h _ (hl _ (List.getElem_mem hpos))]
    exact Bool.false_ne_true
  rw [trimBlanks, hdrop cs fun _ hc => hc, hdrop cs.reverse fun _ hc => List.mem_reverse.1 hc,
    List.reverse_reverse]

/-- Characters of ASCII that are not blank stand for themselves in a
numeral. -/
theorem folded_map_scalar (hascii : ∀ c ∈ cs, c.toNat < 0x7F)
    (hblank : ∀ c ∈ cs, Text.isAsciiBlank c.toNat = false) : folded (cs.map .scalar) = cs := by
  have hknown : (cs.map CodePoint.scalar).takeWhile (fun p => (foldCharacter p).isSome) =
      cs.map .scalar := by
    rw [List.takeWhile_eq_self_iff, List.forall_mem_map]
    intro c hc
    rw [foldCharacter_scalar (hascii c hc)]
    rfl
  have hall : (cs.map CodePoint.scalar).filterMap foldCharacter = cs := by
    rw [List.filterMap_map]
    refine (List.filterMap_congr fun c hc => ?_).trans List.filterMap_some
    exact foldCharacter_scalar (hascii c hc)
  simp only [folded, hknown, hall, Nat.lt_irrefl, if_false, List.append_nil]
  exact trimBlanks_of_forall hblank

/-- Base ten has no mark. -/
theorem dropBaseMark_ten (cs : List Char) : dropBaseMark 10 cs = cs := by
  unfold dropBaseMark
  split
  · rfl
  · rfl

/-- **Digits are taken up to the end**, where there is one or one has been
taken before. -/
theorem digitsIn_digits (h : ∀ d ∈ ds, d.isDigit = true) {afterDigit : Bool}
    (hsome : ds ≠ [] ∨ afterDigit = true) (count value : Nat) :
    digitsIn 10 count value afterDigit ds =
      some (count + ds.length, ds.foldl (fun n c => 10 * n + (c.toNat - 48)) value, []) := by
  induction ds generalizing count value afterDigit with
  | nil =>
    obtain rfl := hsome.resolve_left fun hne => hne rfl
    rfl
  | cons d ds ih =>
    obtain ⟨hlow, hhigh⟩ := isDigit_bounds (h d List.mem_cons_self)
    have hunderscore : (d == '_') = false := by
      refine beq_eq_false_iff_ne.2 fun hd => ?_
      rw [hd] at hhigh
      exact absurd hhigh (by decide)
    have hdigit : digitOf d = d.toNat - 48 := by
      simp only [digitOf, Bool.and_eq_true, decide_eq_true_eq, if_pos (And.intro hlow hhigh)]
    have hbase : digitOf d < 10 := by omega
    rw [digitsIn, hunderscore, if_neg Bool.false_ne_true, if_pos hbase,
      ih (fun x hx => h x (List.mem_cons_of_mem _ hx)) (.inr rfl), hdigit, List.foldl_cons,
      List.length_cons, Nat.mul_comm value, Nat.add_right_comm, Nat.add_assoc]

/-- A numeral of digits, after a sign or without one. -/
theorem integer_of_splitSign {negative : Bool} (hsign : splitSign (folded t) = (negative, ds))
    (hds : ∀ d ∈ ds, d.isDigit = true) (hne : ds ≠ []) (hlength : ds.length ≤ digitLimit) :
    integer 10 t = .ok (if negative then -(decimalValue ds : Int) else decimalValue ds) := by
  have hlimit : ¬ digitLimit < ds.length := Nat.not_lt.2 hlength
  simp only [integer, hsign, dropBaseMark_ten, digitsIn_digits hds (.inl hne), Nat.zero_add,
    hlimit, decide_false, Bool.and_false, Bool.false_eq_true, if_false, List.isEmpty_nil, if_true]
  rfl

theorem splitSign_digit (h : d.isDigit = true) (ds : List Char) :
    splitSign (d :: ds) = (false, d :: ds) := by
  unfold splitSign
  split
  · next heq =>
    obtain ⟨rfl, -⟩ := List.cons.inj heq
    cases h
  · next heq =>
    obtain ⟨rfl, -⟩ := List.cons.inj heq
    cases h
  · rfl

/-- **A decimal form is read as its integer**, if it has no more than the
permitted digits. -/
theorem integer_of_isDecimalForm (h : IsDecimalForm t m) (hm : m.natAbs < 10 ^ digitLimit) :
    integer 10 t = .ok m := by
  have hlimit : 0 < digitLimit := by decide
  cases h with
  | @natural ds hds =>
    have hfolded : folded (ds.map .scalar) = ds :=
      folded_map_scalar (fun d hd => (isDigit_plain (hds.isDigit d hd)).1)
        fun d hd => (isDigit_plain (hds.isDigit d hd)).2
    have hsign : splitSign (folded (ds.map .scalar)) = (false, ds) := by
      rw [hfolded]
      obtain ⟨d, ds, rfl⟩ := List.exists_cons_of_ne_nil hds.ne_nil
      exact splitSign_digit (hds.isDigit d List.mem_cons_self) ds
    exact integer_of_splitSign hsign hds.isDigit hds.ne_nil (hds.length_le hlimit hm)
  | @negative ds hds hne =>
    have hfolded : folded (('-' :: ds).map .scalar) = '-' :: ds := by
      refine folded_map_scalar ?_ ?_
      · exact List.forall_mem_cons.2 ⟨by decide, fun d hd => (isDigit_plain (hds.isDigit d hd)).1⟩
      · exact List.forall_mem_cons.2 ⟨rfl, fun d hd => (isDigit_plain (hds.isDigit d hd)).2⟩
    have hsign : splitSign (folded (.scalar '-' :: ds.map .scalar)) = (true, ds) := by
      rw [← List.map_cons, hfolded]
      rfl
    rw [Int.natAbs_neg, Int.natAbs_natCast] at hm
    exact integer_of_splitSign hsign hds.isDigit hds.ne_nil (hds.length_le hlimit hm)

end Number

end DeliveryAudit
