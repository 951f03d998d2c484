import DeliveryAudit.Proofs.Yaml.Triples
import DeliveryAudit.Yaml.Token.Property
import Mathlib.Algebra.Group.Nat.Defs
import Mathlib.Data.List.Induction
import Mathlib.Data.List.TakeWhile
/-!
# What ends the reading of a text

An action on a cursor stays on the text (`Lex.Stays`): what is still to be read
is the end of the text, and a fault is a complaint, the fault that follows the
text, or one of two that the text itself accounts for (`Unread`), an escape
beyond the code points or a version of too many digits.
-/

namespace DeliveryAudit.Yaml

/-- **Why a text is not cut into tokens**, when `fault` follows it. -/
inductive Unread (text : List Char) (fault : Option Fault) : Fault → Prop
  | complaint (c : Complaint) : Unread text fault (.complaint c)
  | following {f : Fault} : fault = some f → Unread text fault f
  /-- An escape of eight digits stands in the text, and no code point has that number. -/
  | beyondCodePoints {digits : List Char} : '\\' :: 'U' :: digits <:+: text → digits.length = 8 →
    (∀ d ∈ digits, Lex.isHexDigit d = true) → 0x110000 ≤ Lex.hexNumber digits →
    Unread text fault (.beyondCodePoints (Lex.hexNumber digits))
  /-- More digits stand in the text one after the other than a number may have. -/
  | longVersion {digits : List Char} : digits <:+: text → (∀ d ∈ digits, d.isDigit = true) →
    Number.digitLimit < digits.length → Unread text fault (.longVersion digits.length)

/-- **A cursor on a text** has the end of the text before it. -/
structure Cursor.On (text : List Char) (fault : Option Fault) (c : Cursor) : Prop where
  rest : c.rest <:+ text
  fault : c.fault = fault

variable {text : List Char} {fault : Option Fault} {α β : Type}

theorem Cursor.On.skip {c : Cursor} (h : c.On text fault) (n : Nat) :
    (c.skip n).On text fault := by
  induction n generalizing c with
  | zero => exact h
  | succ n ih =>
    rw [Cursor.skip]
    split
    · exact h
    · next d rest hrest =>
      exact ih ⟨(hrest ▸ List.suffix_cons d rest).trans h.rest, h.fault⟩

namespace Lex

/-- **An action that stays on the text.** -/
abbrev Stays (text : List Char) (fault : Option Fault) (action : Lex α) : Prop :=
  Triple (Unread text fault) (Cursor.On text fault) action fun _ => Cursor.On text fault

theorem stays_pure (a : α) : Stays text fault (Pure.pure a : Lex α) := Triple.pure fun _ h => h

/-! ## Looking -/

section Looking

variable {P : Cursor → Prop} (hP : ∀ c, P c → c.On text fault)
include hP

/-- To need characters changes nothing. -/
theorem looks_need (n : Nat) : Triple (Unread text fault) P (need n) fun _ => P := by
  refine Triple.get.bind fun c => ?_
  split
  · next f hf =>
    split
    · refine Triple.throw fun d hd => .following ?_
      rw [← (hP d hd.2).fault, ← hd.1, hf]
    · exact Triple.pure fun _ h => h.2
  · exact Triple.pure fun _ h => h.2

theorem looks_peek (n : Nat) : Triple (Unread text fault) P (peek n) fun d c =>
    P c ∧ c.rest.getD n '\x00' = d :=
  (looks_need hP _).bind fun _ => Triple.get.bind fun _ => Triple.pure fun _ h =>
    ⟨h.2, by rw [h.1]⟩

theorem looks_ahead (n : Nat) (p : Char → Bool) :
    Triple (Unread text fault) P (ahead n p) fun cs c =>
      P c ∧ cs = (c.rest.drop n).takeWhile p := by
  refine Triple.get.bind fun c => ?_
  refine (looks_need (P := fun d => c = d ∧ P d) (fun d hd => hP d hd.2) _).bind fun _ => ?_
  exact Triple.pure fun d hd => ⟨hd.2, by rw [hd.1]⟩

theorem looks_aheadUpTo (most : Nat) (p : Char → Bool) :
    Triple (Unread text fault) P (aheadUpTo most p) fun cs c =>
      P c ∧ cs = (c.rest.take most).takeWhile p := by
  refine Triple.get.bind fun c => ?_
  refine (looks_need (P := fun d => c = d ∧ P d) (fun d hd => hP d hd.2) _).bind fun _ => ?_
  exact Triple.pure fun d hd => ⟨hd.2, by rw [hd.1]⟩

end Looking

/-! ## Passing characters -/

theorem stays_need (n : Nat) : Stays text fault (need n) := looks_need (fun _ h => h) n

theorem stays_peek (n : Nat) : Stays text fault (peek n) :=
  (looks_peek (fun _ h => h) n).mono fun _ _ h => h.1

theorem stays_next : Stays text fault next := stays_peek 0

theorem stays_look (n : Nat) : Stays text fault (look n) :=
  (stays_need n).bind fun _ => Triple.state fun _ _ => Triple.pure fun _ h => h

theorem stays_ahead (n : Nat) (p : Char → Bool) : Stays text fault (ahead n p) :=
  (looks_ahead (fun _ h => h) n p).mono fun _ _ h => h.1

theorem stays_aheadUpTo (most : Nat) (p : Char → Bool) : Stays text fault (aheadUpTo most p) :=
  (looks_aheadUpTo (fun _ h => h) most p).mono fun _ _ h => h.1

/-- What is read of the cursor itself. -/
theorem stays_get (g : Cursor → α) : Stays text fault (do return g (← get)) :=
  Triple.state fun _ _ => Triple.pure fun _ h => h

theorem stays_mark : Stays text fault mark := stays_get fun c => c.mark

theorem stays_column : Stays text fault column := stays_get fun c => c.mark.column

theorem stays_rounds : Stays text fault rounds := stays_get fun c => c.left + 1

theorem stays_skip (n : Nat) : Stays text fault (skip n) :=
  (stays_need _).bind fun _ => Triple.modify fun _ h => h.skip n

theorem stays_skipWhile (p : Char → Bool) : Stays text fault (skipWhile p) :=
  (stays_ahead 0 p).bind fun cs => (stays_skip _).bind fun _ => stays_pure cs

theorem stays_skipSpaces : Stays text fault skipSpaces :=
  (stays_skipWhile _).bind fun _ => stays_pure ()

theorem stays_skipComment : Stays text fault skipComment := by
  refine stays_next.bind fun c => ?_
  split
  · exact (stays_skipWhile _).bind fun _ => stays_pure ()
  · exact stays_pure ()

theorem stays_lineBreak : Stays text fault lineBreak := by
  refine stays_next.bind fun c => ?_
  split
  · exact (stays_skip 1).bind fun _ => stays_pure _
  · split
    · exact (stays_skip 1).bind fun _ => stays_pure _
    · exact stays_pure _

theorem stays_atSeparator : Stays text fault atSeparator := by
  refine (stays_look 3).bind fun cs => ?_
  split
  · exact (stays_peek 3).bind fun _ => stays_pure _
  · exact stays_pure _

section Complaints

variable {Q : α → Cursor → Prop}

theorem fails_complainAt (m : Mark) (activity : Activity) (since : Mark) (problem : Problem) :
    Triple (Unread text fault) (Cursor.On text fault) (complainAt m activity since problem) Q :=
  Triple.throw fun _ _ => .complaint _

/-- Nothing follows a complaint. -/
theorem fails_complain (activity : Activity) (since : Mark) (problem : Problem) :
    Triple (Unread text fault) (Cursor.On text fault) (complain activity since problem) Q :=
  stays_mark.bind fun m => fails_complainAt m activity since problem

end Complaints

/-! ## Plain scalars -/

theorem stays_plainPiece (inFlow : Bool) : Stays text fault (plainPiece inFlow) := by
  refine Triple.state fun c _ => ?_
  refine (stays_peek _).bind fun d => ?_
  split
  · exact (stays_need _).bind fun _ => stays_pure _
  · exact stays_pure _

theorem stays_plainBreaks (budget : Nat) (seen : List Char) :
    Stays text fault (plainBreaks budget seen) := by
  induction budget generalizing seen with
  | zero => exact stays_pure _
  | succ budget ih =>
    refine stays_skipSpaces.bind fun _ => stays_next.bind fun c => ?_
    split
    · refine stays_lineBreak.bind fun b => stays_atSeparator.bind fun separated => ?_
      split
      · exact stays_pure _
      · exact ih _
    · exact stays_pure _

theorem stays_plainSpaces : Stays text fault plainSpaces := by
  refine (stays_skipWhile _).bind fun spaces => stays_next.bind fun c => ?_
  split
  · refine stays_lineBreak.bind fun first => stays_atSeparator.bind fun separated => ?_
    split
    · exact stays_pure _
    · refine stays_rounds.bind fun n => (stays_plainBreaks n []).bind fun others => ?_
      cases others with
      | none => exact stays_pure _
      | some others => exact stays_pure _
  · exact stays_pure _

theorem stays_plainFrom (inFlow : Bool) (indent : Int) (budget : Nat) (seen : List (List Char))
    (blanks : List Char) (last : Mark) (broken : Bool) :
    Stays text fault (plainFrom inFlow indent budget seen blanks last broken) := by
  induction budget generalizing seen blanks last broken with
  | zero => exact stays_pure _
  | succ budget ih =>
    refine stays_next.bind fun c => ?_
    split
    · exact stays_pure _
    refine (stays_plainPiece inFlow).bind fun piece => ?_
    split
    · exact stays_pure _
    refine (stays_skip _).bind fun _ => stays_mark.bind fun last => ?_
    refine stays_plainSpaces.bind fun ⟨spaces, broken⟩ => ?_
    dsimp only
    split
    · exact stays_pure _
    refine stays_next.bind fun d => stays_column.bind fun column => ?_
    split
    · exact stays_pure _
    · exact ih _ _ _ _

theorem stays_plainScalar (inFlow : Bool) (indent : Int) :
    Stays text fault (plainScalar inFlow indent) :=
  stays_mark.bind fun _ => stays_rounds.bind fun _ =>
    (stays_plainFrom inFlow indent _ _ _ _ _).bind fun _ => stays_pure _

/-! ## Quoted scalars -/

theorem stays_quotedBreaks (since : Mark) (budget : Nat) (seen : List Char) :
    Stays text fault (quotedBreaks since budget seen) := by
  induction budget generalizing seen with
  | zero => exact stays_pure _
  | succ budget ih =>
    have hrest : Stays text fault (do
        let _ ← skipWhile isBlank
        if isBreak (← next) then quotedBreaks since budget (seen ++ (← lineBreak))
        else return seen) := by
      refine (stays_skipWhile _).bind fun _ => stays_next.bind fun c => ?_
      split
      · exact stays_lineBreak.bind fun b => ih _
      · exact stays_pure _
    refine stays_atSeparator.bind fun separated => ?_
    split
    · exact (fails_complain _ _ _).bind fun _ => hrest
    · exact hrest

/-! ### Escapes -/

theorem hexNumber_lt {digits : List Char} (h : ∀ d ∈ digits, isHexDigit d = true) :
    hexNumber digits < 16 ^ digits.length := by
  induction digits using List.reverseRecOn with
  | nil => decide
  | append_singleton digits d ih =>
    have hd : Number.digitOf d < 16 := by
      simpa [isHexDigit] using h d (List.mem_append_right _ (List.mem_singleton_self d))
    have hdigits := ih fun c hc => h c (List.mem_append_left _ hc)
    rw [hexNumber] at hdigits
    rw [hexNumber, List.foldl_append, List.foldl_cons, List.foldl_nil, List.length_append,
      List.length_singleton, Nat.pow_succ]
    omega

/-- Every number below those of planes beyond the last is that of a code point. -/
theorem le_of_ofNat?_eq_none {n : Nat} (h : CodePoint.ofNat? n = none) : 0x110000 ≤ n := by
  by_contra hn
  rw [CodePoint.ofNat?] at h
  by_cases hvalid : n.isValidChar
  · rw [dif_pos hvalid] at h
    cases h
  · rw [dif_neg hvalid] at h
    rw [Nat.isValidChar] at hvalid
    rw [if_neg (by omega), dif_pos (by omega)] at h
    cases h

/-- Only an escape of eight digits leads beyond the code points. -/
theorem eq_U_of_escapeDigits? {d : Char} {width : Nat} {digits : List Char}
    (hd : escapeDigits? d = some width) (hwidth : digits.length = width)
    (hdigits : ∀ d ∈ digits, isHexDigit d = true)
    (hn : CodePoint.ofNat? (hexNumber digits) = none) : d = 'U' ∧ width = 8 := by
  have hlt := hexNumber_lt hdigits
  have hle := le_of_ofNat?_eq_none hn
  unfold escapeDigits? at hd
  split at hd
  · cases hd
    rw [hwidth] at hlt
    omega
  · cases hd
    rw [hwidth] at hlt
    omega
  · cases hd
    exact ⟨rfl, rfl⟩
  · cases hd

/-- Past a character, the text goes on after it. -/
theorem passes_skip (before : List Char) {d : Char} :
    Triple (Unread text fault)
      (fun c => (c.On text fault ∧ before ++ c.rest <:+ text) ∧ c.rest.getD 0 '\x00' = d ∧
        d ≠ '\x00') (skip 1) fun _ c =>
      c.On text fault ∧ before ++ d :: c.rest <:+ text := by
  refine (looks_need (fun c hc => hc.1.1) _).bind fun _ => Triple.modify fun c hc => ?_
  obtain ⟨⟨hon, hbefore⟩, hd, hzero⟩ := hc
  refine ⟨hon.skip 1, ?_⟩
  cases hrest : c.rest with
  | nil =>
    rw [hrest] at hd
    exact absurd hd.symm hzero
  | cons e rest =>
    rw [hrest] at hd hbefore
    obtain rfl : e = d := hd
    rw [Cursor.skip, hrest]
    exact hbefore

theorem stays_quotedEscape (since : Mark) :
    Triple (Unread text fault) (fun c => c.On text fault ∧ ['\\'] ++ c.rest <:+ text)
      (quotedEscape since) fun _ c => c.On text fault := by
  refine (looks_peek (fun c hc => hc.1) 0).bind fun d => ?_
  split
  · exact Triple.of_pre ((stays_skip 1).bind fun _ => stays_pure _) fun _ h => h.1.1
  · next width hshort hwidth =>
    have hd : d ≠ '\x00' := by
      rintro rfl
      cases hwidth
    refine ((passes_skip _).of_pre fun c hc => ⟨hc.1, hc.2, hd⟩).bind fun _ => ?_
    refine (looks_aheadUpTo (fun c hc => hc.1) width isHexDigit).bind fun digits => ?_
    dsimp only
    split
    · refine Triple.of_pre ?_ fun c hc => hc.1.1
      exact (stays_peek _).bind fun e => (fails_complain _ _ _).bind fun _ => Triple.never
    · next hlength =>
      split
      · refine Triple.of_pre ?_ fun c hc => hc.1.1
        exact (stays_skip _).bind fun _ => stays_pure _
      · next hn =>
        -- The digits are the next characters of the text, after the letter of the escape.
        refine Triple.throw fun c hc => ?_
        obtain ⟨⟨hon, htext⟩, hahead⟩ := hc
        have hdigits : ∀ e ∈ digits, isHexDigit e = true := fun e he => by
          rw [hahead] at he
          exact List.mem_takeWhile_imp he
        have hprefix : digits <+: c.rest := by
          rw [hahead]
          exact (List.takeWhile_prefix _).trans (List.take_prefix _ _)
        have hwidth' : digits.length = width := by
          refine Nat.le_antisymm ?_ (Nat.not_lt.1 hlength)
          rw [hahead]
          exact Nat.le_trans (List.takeWhile_prefix _).length_le (List.length_take_le _ _)
        obtain ⟨rfl, rfl⟩ := eq_U_of_escapeDigits? hwidth hwidth' hdigits hn
        refine .beyondCodePoints ?_ hwidth' hdigits (le_of_ofNat?_eq_none hn)
        refine List.IsInfix.trans ?_ htext.isInfix
        exact ((List.prefix_append_right_inj ['\\', 'U']).2 hprefix).isInfix
  · refine Triple.of_pre ?_ fun c hc => hc.1.1
    split
    · refine stays_lineBreak.bind fun _ => stays_rounds.bind fun n => ?_
      exact (stays_quotedBreaks since n []).bind fun _ => stays_pure _
    · exact fails_complain _ _ _

/-! ### Quotes -/

theorem stays_quotedFrom (double : Bool) (since : Mark) (budget : Nat) (seen : Text) :
    Stays text fault (quotedFrom double since budget seen) := by
  induction budget generalizing seen with
  | zero => exact fails_complain _ _ _
  | succ budget ih =>
    refine (looks_peek (fun _ h => h) 0).bind fun d => ?_
    split
    · refine Triple.of_pre ?_ fun _ h => h.1
      refine (stays_peek 1).bind fun e => ?_
      split
      · exact (stays_skip 2).bind fun _ => ih _
      · exact (stays_skip 1).bind fun _ => stays_pure _
    split
    · exact Triple.of_pre ((stays_skip 1).bind fun _ => stays_pure _) fun _ h => h.1
    split
    · next hbackslash =>
      obtain rfl : d = '\\' := by simpa using (Bool.and_eq_true_iff.1 hbackslash).1
      refine (passes_skip []).of_pre (fun c hc => ⟨⟨hc.1, hc.1.rest⟩, hc.2, by decide⟩)
        |>.bind fun _ => ?_
      exact (stays_quotedEscape since).bind fun t => ih _
    refine Triple.of_pre ?_ fun _ h => h.1
    split
    · refine (stays_skipWhile _).bind fun blanks => stays_next.bind fun e => ?_
      split
      · exact fails_complain _ _ _
      split
      · refine stays_lineBreak.bind fun first => stays_rounds.bind fun n => ?_
        exact (stays_quotedBreaks since n []).bind fun others => ih _
      · exact ih _
    · exact (stays_skip 1).bind fun _ => ih _

theorem stays_quotedScalar : Stays text fault quotedScalar :=
  stays_mark.bind fun since => stays_next.bind fun _ => (stays_skip 1).bind fun _ =>
    stays_rounds.bind fun _ => (stays_quotedFrom _ since _ _).bind fun _ =>
      stays_mark.bind fun _ => stays_pure _

/-! ## Block scalars -/

theorem stays_indentIndicator (since : Mark) : Stays text fault (indentIndicator since) := by
  refine stays_next.bind fun c => ?_
  split
  · exact fails_complain _ _ _
  split
  · exact (stays_skip 1).bind fun _ => stays_pure _
  · exact stays_pure _

theorem stays_blockHeader (since : Mark) : Stays text fault (blockHeader since) := by
  have hrest : ∀ header : Chomping × Option Nat, Stays text fault (do
      let c ← next
      if endsToken c then return header
      else complain .blockScalar since (.expected "chomping or indentation indicators" c)) := by
    intro header
    refine stays_next.bind fun c => ?_
    split
    · exact stays_pure _
    · exact fails_complain _ _ _
  refine stays_next.bind fun c => ?_
  dsimp only
  split
  · refine (stays_skip 1).bind fun _ => (stays_indentIndicator since).bind fun _ => ?_
    exact (stays_pure _).bind hrest
  · refine (stays_indentIndicator since).bind fun increment => stays_next.bind fun d => ?_
    split
    · exact (stays_skip 1).bind fun _ => (stays_pure _).bind hrest
    · exact (stays_pure _).bind hrest

theorem stays_ignoredLine (activity : Activity) (since : Mark) :
    Stays text fault (ignoredLine activity since) := by
  refine stays_skipSpaces.bind fun _ => stays_skipComment.bind fun _ => stays_next.bind fun c => ?_
  split
  · exact stays_lineBreak.bind fun _ => stays_pure _
  · exact fails_complain _ _ _

theorem stays_leadingBreaks (budget : Nat) (seen : List Char) (widest : Nat) :
    Stays text fault (leadingBreaks budget seen widest) := by
  induction budget generalizing seen widest with
  | zero => exact stays_pure _
  | succ budget ih =>
    refine stays_skipSpaces.bind fun _ => stays_column.bind fun n => stays_next.bind fun c => ?_
    split
    · exact stays_lineBreak.bind fun b => ih _ _
    · exact stays_pure _

theorem stays_skipIndent (indent : Nat) : Stays text fault (skipIndent indent) :=
  stays_column.bind fun _ => (stays_aheadUpTo _ _).bind fun _ => stays_skip _

theorem stays_innerBreaks (indent budget : Nat) (seen : List Char) :
    Stays text fault (innerBreaks indent budget seen) := by
  induction budget generalizing seen with
  | zero => exact stays_pure _
  | succ budget ih =>
    refine (stays_skipIndent indent).bind fun _ => stays_next.bind fun c => ?_
    split
    · exact stays_lineBreak.bind fun b => ih _
    · exact stays_pure _

theorem stays_blockGoesOn (indent : Nat) : Stays text fault (blockGoesOn indent) := by
  refine stays_column.bind fun n => ?_
  split
  · exact stays_next.bind fun _ => stays_pure _
  · exact stays_pure _

theorem stays_blockLines (folded : Bool) (indent budget : Nat) (seen : List (List Char)) :
    Stays text fault (blockLines folded indent budget seen) := by
  induction budget generalizing seen with
  | zero => exact stays_pure _
  | succ budget ih =>
    refine stays_next.bind fun d => (stays_skipWhile _).bind fun line => ?_
    refine stays_lineBreak.bind fun first => stays_rounds.bind fun n => ?_
    refine (stays_innerBreaks indent n []).bind fun others => ?_
    refine (stays_blockGoesOn indent).bind fun goesOn => ?_
    split
    · refine stays_next.bind fun e => ?_
      exact ih _
    · exact stays_pure _

theorem stays_blockScalar (indent : Int) : Stays text fault (blockScalar indent) := by
  refine stays_mark.bind fun since => stays_next.bind fun d => (stays_skip 1).bind fun _ => ?_
  refine (stays_blockHeader since).bind fun ⟨chomping, increment⟩ => ?_
  refine (stays_ignoredLine _ since).bind fun _ => ?_
  extract_lets least scalar lines
  have hscalar : ∀ p, Stays text fault (scalar p) := fun _ => stays_mark.bind fun _ => stays_pure _
  have hlines : ∀ p, Stays text fault (lines p) := by
    rintro ⟨leading, width⟩
    refine (stays_blockGoesOn width).bind fun goesOn => ?_
    split
    · exact stays_rounds.bind fun n => (stays_blockLines _ width n _).bind hscalar
    · exact (stays_pure _).bind hscalar
  split
  · refine stays_rounds.bind fun n => (stays_innerBreaks _ n []).bind fun _ => ?_
    exact (stays_pure _).bind hlines
  · refine stays_rounds.bind fun n => (stays_leadingBreaks n [] 0).bind fun _ => ?_
    exact (stays_pure _).bind hlines

/-! ## Names and tags -/

theorem stays_name (activity : Activity) (since : Mark) (mayEnd : Char → Bool) :
    Stays text fault (name activity since mayEnd) := by
  refine (stays_skipWhile _).bind fun cs => stays_next.bind fun c => ?_
  split
  · exact fails_complain _ _ _
  · exact stays_pure _

theorem stays_anchorOrAlias : Stays text fault anchorOrAlias :=
  stays_mark.bind fun since => stays_next.bind fun _ => (stays_skip 1).bind fun _ =>
    (stays_name _ since _).bind fun _ => stays_mark.bind fun _ => stays_pure _

theorem stays_escapedBytes (activity : Activity) (since : Mark) (budget : Nat)
    (seen : List UInt8) : Stays text fault (escapedBytes activity since budget seen) := by
  induction budget generalizing seen with
  | zero => exact stays_pure _
  | succ budget ih =>
    refine stays_next.bind fun c => ?_
    split
    · refine (stays_skip 1).bind fun _ => (stays_aheadUpTo 2 _).bind fun digits => ?_
      extract_lets rest
      have hrest : ∀ u, Stays text fault (rest u) := fun _ => (stays_skip 2).bind fun _ => ih _
      split
      · exact (stays_peek _).bind fun d => (fails_complain _ _ _).bind hrest
      · exact hrest ()
    · exact stays_pure _

theorem stays_tagChars (activity : Activity) (since : Mark) (budget : Nat) (seen : List Char) :
    Stays text fault (tagChars activity since budget seen) := by
  induction budget generalizing seen with
  | zero => exact stays_pure _
  | succ budget ih =>
    refine (stays_skipWhile _).bind fun piece => stays_next.bind fun c => ?_
    split
    · refine stays_mark.bind fun m => stays_rounds.bind fun n => ?_
      refine (stays_escapedBytes activity since n []).bind fun bytes => ?_
      split
      · exact ih _
      · exact fails_complainAt _ _ _ _
    · exact stays_pure _

theorem stays_tagSuffix (scanning parsing : Activity) (since : Mark) :
    Stays text fault (tagSuffix scanning parsing since) := by
  refine stays_mark.bind fun start => stays_rounds.bind fun n => ?_
  refine (stays_tagChars scanning since n []).bind fun cs => stays_mark.bind fun last => ?_
  split
  · exact stays_next.bind fun _ => fails_complain _ _ _
  · exact stays_pure _

theorem stays_tagHandle (activity : Activity) (since : Mark) :
    Stays text fault (tagHandle activity since) := by
  refine stays_next.bind fun c => ?_
  extract_lets rest
  have hrest : ∀ u, Stays text fault (rest u) := by
    intro u
    refine (stays_peek 1).bind fun d => ?_
    split
    · exact (stays_skip 1).bind fun _ => stays_pure _
    refine (stays_ahead 1 _).bind fun name => (stays_peek _).bind fun e => ?_
    split
    · exact (stays_skip _).bind fun _ => stays_pure _
    · exact (stays_skip _).bind fun _ => fails_complain _ _ _
  split
  · exact (fails_complain _ _ _).bind hrest
  · exact hrest ()

theorem stays_tagParts (since : Mark) : Stays text fault (tagParts since) := by
  refine (stays_peek 1).bind fun d => ?_
  split
  · refine (stays_skip 2).bind fun _ => (stays_tagSuffix _ _ since).bind fun suffix => ?_
    refine stays_next.bind fun e => ?_
    extract_lets rest
    have hrest : ∀ u, Stays text fault (rest u) := fun _ =>
      (stays_skip 1).bind fun _ => stays_pure _
    split
    · exact (fails_complain _ _ _).bind hrest
    · exact hrest ()
  split
  · exact (stays_skip 1).bind fun _ => stays_pure _
  refine (stays_ahead 1 _).bind fun word => (stays_peek _).bind fun e => ?_
  extract_lets rest
  have hrest : ∀ handle, Stays text fault (rest handle) := fun _ =>
    (stays_tagSuffix _ _ since).bind fun _ => stays_pure _
  split
  · exact (stays_tagHandle _ since).bind hrest
  · exact (stays_skip 1).bind fun _ => (stays_pure _).bind hrest

theorem stays_tag : Stays text fault tag := by
  refine stays_mark.bind fun since => (stays_tagParts since).bind fun ⟨handle, suffix⟩ => ?_
  refine stays_next.bind fun c => ?_
  split
  · exact stays_mark.bind fun _ => stays_pure _
  · exact fails_complain _ _ _

/-! ## Directives -/

/-- The digits of a number are those that come next in the text. -/
theorem stays_versionNumber (since : Mark) : Stays text fault (versionNumber since) := by
  refine (looks_ahead (fun _ h => h) 0 Char.isDigit).bind fun digits => ?_
  extract_lets number limited
  have hnumber : ∀ u, Stays text fault (number u) := fun _ =>
    (stays_skip _).bind fun _ => stays_pure _
  have hlimited : ∀ u, Triple (Unread text fault)
      (fun c => c.On text fault ∧ digits = (c.rest.drop 0).takeWhile Char.isDigit) (limited u)
      fun _ c => c.On text fault := by
    intro u
    unfold limited
    split
    · next hlong =>
      refine (Triple.throw (Q := fun _ _ => False) fun c hc => ?_).bind fun _ => Triple.never
      obtain ⟨hon, hdigits⟩ := hc
      rw [List.drop_zero] at hdigits
      refine .longVersion ?_ (fun d hd => ?_) hlong
      · exact hdigits ▸ (List.takeWhile_prefix _).isInfix.trans hon.rest.isInfix
      · rw [hdigits] at hd
        exact List.mem_takeWhile_imp hd
    · exact Triple.of_pre (hnumber ()) fun _ h => h.1
  split
  · refine Triple.of_pre ?_ fun _ h => h.1
    exact stays_next.bind fun c => (fails_complain _ _ _).bind fun _ => Triple.never
  · exact hlimited ()

theorem stays_version (since : Mark) : Stays text fault (version since) := by
  refine (stays_versionNumber since).bind fun major => stays_next.bind fun c => ?_
  extract_lets rest
  have hrest : ∀ u, Stays text fault (rest u) := by
    intro u
    refine (stays_skip 1).bind fun _ => (stays_versionNumber since).bind fun minor => ?_
    refine stays_next.bind fun d => ?_
    split
    · exact stays_pure _
    · exact fails_complain _ _ _
  split
  · exact (fails_complain _ _ _).bind hrest
  · exact hrest ()

theorem stays_handleDefinition (since : Mark) : Stays text fault (handleDefinition since) := by
  refine (stays_tagHandle _ since).bind fun handle => stays_next.bind fun c => ?_
  extract_lets rest
  have hrest : ∀ u, Stays text fault (rest u) := by
    intro u
    refine stays_skipSpaces.bind fun _ => (stays_tagSuffix _ _ since).bind fun stem => ?_
    refine stays_next.bind fun d => ?_
    split
    · exact stays_pure _
    · exact fails_complain _ _ _
  split
  · exact (fails_complain _ _ _).bind hrest
  · exact hrest ()

theorem stays_directive : Stays text fault directive := by
  refine stays_mark.bind fun since => (stays_skip 1).bind fun _ => ?_
  refine (stays_name _ since _).bind fun name => ?_
  extract_lets line
  have hline : ∀ d, Stays text fault (line d) := fun _ =>
    stays_mark.bind fun _ => (stays_ignoredLine _ since).bind fun _ => stays_pure _
  split
  · exact stays_skipSpaces.bind fun _ => (stays_version since).bind hline
  · exact stays_skipSpaces.bind fun _ => (stays_handleDefinition since).bind hline
  · exact (stays_skipWhile _).bind fun _ => (stays_pure _).bind hline

end Lex

end DeliveryAudit.Yaml
