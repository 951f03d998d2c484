import DeliveryAudit.Proofs.Yaml.Lexing
import DeliveryAudit.Yaml.Token.Stream
/-!
# What ends the cutting of a text

Every step of the cutting stays on the text as the actions on the cursor do, so
that the fault after the tokens of a text is one that the text accounts for
(`TokenStream.unread_of_ofSource`). The first token is the start of the stream.
-/

namespace DeliveryAudit.Yaml

variable {text : List Char} {fault : Option Fault} {α : Type} {s : Scan}

namespace Scan

/-! ## Blanks and first characters -/

theorem stays_skipIgnored (budget : Nat) (broken : Bool) :
    Lex.Stays text fault (skipIgnored budget broken) := by
  induction budget generalizing broken with
  | zero => exact Lex.stays_pure _
  | succ budget ih =>
    refine Lex.stays_skipSpaces.bind fun _ => Lex.stays_skipComment.bind fun _ => ?_
    refine Lex.stays_next.bind fun c => ?_
    split
    · exact Lex.stays_lineBreak.bind fun _ => ih _
    · exact Lex.stays_pure _

theorem stays_skipToToken : Lex.Stays text fault skipToToken := by
  refine Lex.stays_mark.bind fun m => ?_
  extract_lets ignored
  have hignored : ∀ u, Lex.Stays text fault (ignored u) := fun _ =>
    Lex.stays_rounds.bind fun n => stays_skipIgnored n false
  split
  · refine Lex.stays_next.bind fun c => ?_
    split
    · exact (Lex.stays_skip 1).bind hignored
    · exact hignored ()
  · exact hignored ()

theorem stays_opening (inFlow : Bool) : Lex.Stays text fault (opening inFlow) := by
  refine Lex.stays_next.bind fun c => Lex.stays_column.bind fun column => ?_
  extract_lets usual
  have husual : ∀ u, Lex.Stays text fault (usual u) := by
    intro u
    unfold usual
    split
    · exact Lex.stays_pure _
    · exact (Lex.stays_peek 1).bind fun d => Lex.stays_pure _
  split
  · split
    · exact Lex.stays_pure _
    split
    · refine Lex.stays_atSeparator.bind fun separated => ?_
      split
      · exact Lex.stays_pure _
      · exact husual ()
    · exact husual ()
  · exact husual ()

/-! ## Steps -/

/-- **A step that stays on the text.** -/
abbrev Stays (text : List Char) (fault : Option Fault) (x : Except Fault Scan) : Prop :=
  Ends (Unread text fault) (fun s => s.cursor.On text fault) x

theorem lex_spec {action : Lex α} (hs : s.cursor.On text fault)
    (h : Lex.Stays text fault action) :
    Ends (Unread text fault) (fun p => p.2.cursor.On text fault) (s.lex action) :=
  Ends.bind (h s.cursor hs) fun _ hp => hp

theorem stays_holdRead {action : Lex Token} (hs : s.cursor.On text fault)
    (h : Lex.Stays text fault action) : Stays text fault (s.holdRead action) :=
  (lex_spec hs h).bind fun _ hp => hp

theorem stays_holdNext (hs : s.cursor.On text fault) (kind : Token.Kind) (n : Nat) :
    Stays text fault (s.holdNext kind n) :=
  stays_holdRead hs <| Lex.stays_mark.bind fun _ => (Lex.stays_skip n).bind fun _ =>
    Lex.stays_mark.bind fun _ => Lex.stays_pure _

theorem stays_dropStale (hs : s.cursor.On text fault) : Stays text fault s.dropStale := by
  unfold dropStale
  split
  · exact .complaint _
  · exact hs

theorem stays_dropCandidate (hs : s.cursor.On text fault) :
    Stays text fault s.dropCandidate := by
  unfold dropCandidate
  split
  · split
    · exact .complaint _
    · exact hs
  · exact hs

theorem stays_addCandidate (hs : s.cursor.On text fault) : Stays text fault s.addCandidate := by
  unfold addCandidate
  split
  · exact (stays_dropCandidate hs).bind fun _ hs => hs
  · exact hs

@[simp] theorem cursor_closeBlocks (column : Int) (budget : Nat) (s : Scan) :
    (closeBlocks column budget s).cursor = s.cursor := by
  induction budget generalizing s with
  | zero => rfl
  | succ budget ih =>
    rw [closeBlocks]
    split
    · exact ih _
    · rfl

theorem cursor_unwind (s : Scan) (column : Int) : (s.unwind column).cursor = s.cursor := by
  unfold unwind
  split
  · rfl
  · exact cursor_closeBlocks _ _ s

theorem on_openBlock (hs : s.cursor.On text fault) (column : Int) :
    (s.openBlock column).2.cursor.On text fault := by
  unfold openBlock
  split
  · exact hs
  · exact hs

theorem stays_unwound (hs : s.cursor.On text fault) (column : Int) :
    (s.unwind column).cursor.On text fault := by
  rw [cursor_unwind]
  exact hs

theorem stays_toNextToken (hs : s.cursor.On text fault) : Stays text fault s.toNextToken :=
  (lex_spec hs stays_skipToToken).bind fun _ hp => hp

/-! ## Tokens -/

theorem stays_streamEnd (hs : s.cursor.On text fault) : Stays text fault s.streamEnd :=
  (stays_dropCandidate (stays_unwound hs _)).bind fun _ hs => hs

theorem stays_directiveLine (hs : s.cursor.On text fault) : Stays text fault s.directiveLine :=
  (stays_dropCandidate (stays_unwound hs _)).bind fun _ hs =>
    (stays_holdRead hs Lex.stays_directive).bind fun _ hs => hs

theorem stays_separator (hs : s.cursor.On text fault) (kind : Token.Kind) :
    Stays text fault (s.separator kind) :=
  (stays_dropCandidate (stays_unwound hs _)).bind fun _ hs =>
    (stays_holdNext hs kind 3).bind fun _ hs => hs

theorem stays_openFlow (hs : s.cursor.On text fault) (kind : Token.Kind) :
    Stays text fault (s.openFlow kind) :=
  (stays_addCandidate hs).bind fun _ hs => (stays_holdNext hs kind 1).bind fun _ hs => hs

theorem stays_closeFlow (hs : s.cursor.On text fault) (kind : Token.Kind) :
    Stays text fault (s.closeFlow kind) :=
  (stays_dropCandidate hs).bind fun _ hs => (stays_holdNext hs kind 1).bind fun _ hs => hs

theorem stays_flowEntry (hs : s.cursor.On text fault) : Stays text fault s.flowEntry :=
  (stays_dropCandidate hs).bind fun _ hs => (stays_holdNext hs .flowEntry 1).bind fun _ hs => hs

theorem stays_startBlock (hs : s.cursor.On text fault) (kind : Token.Kind) (what : String) :
    Stays text fault (s.startBlock kind what) := by
  have hopened := on_openBlock hs s.column
  unfold startBlock
  split
  · exact hs
  split
  · exact .complaint _
  · split
    · next s' h =>
      rw [h] at hopened
      exact hopened
    · next s' h =>
      rw [h] at hopened
      exact hopened

theorem stays_blockEntry (hs : s.cursor.On text fault) : Stays text fault s.blockEntry :=
  (stays_startBlock hs _ _).bind fun _ hs => (stays_dropCandidate hs).bind fun _ hs =>
    (stays_holdNext hs .blockEntry 1).bind fun _ hs => hs

theorem stays_explicitKey (hs : s.cursor.On text fault) : Stays text fault s.explicitKey :=
  (stays_startBlock hs _ _).bind fun _ hs => (stays_dropCandidate hs).bind fun _ hs =>
    (stays_holdNext hs .key 1).bind fun _ hs => hs

theorem stays_colon (hs : s.cursor.On text fault) : Stays text fault s.colon := by
  unfold colon
  extract_lets value
  have hvalue : ∀ s : Scan, s.cursor.On text fault → Stays text fault (value s) := fun s hs =>
    stays_holdNext hs .value 1
  split
  · next k _ =>
    extract_lets keyed later
    have hlater : later.cursor.On text fault := hs
    have hopened := on_openBlock hlater k.mark.column
    split
    · exact hvalue _ hlater
    · split
      · next opened h =>
        rw [h] at hopened
        exact hvalue _ hopened
      · next opened h =>
        rw [h] at hopened
        exact hvalue _ hopened
  · refine (stays_startBlock hs _ _).bind fun s hs => (stays_dropCandidate hs).bind fun s hs => ?_
    exact hvalue _ hs

theorem stays_keyLike {action : Lex Token} (hs : s.cursor.On text fault)
    (h : Lex.Stays text fault action) : Stays text fault (s.keyLike action) :=
  (stays_addCandidate hs).bind fun _ hs => (stays_holdRead hs h).bind fun _ hs => hs

theorem stays_block (hs : s.cursor.On text fault) : Stays text fault s.block :=
  (stays_dropCandidate hs).bind fun _ hs =>
    (stays_holdRead hs (Lex.stays_blockScalar _)).bind fun _ hs => hs

theorem stays_plain (hs : s.cursor.On text fault) : Stays text fault s.plain :=
  (stays_addCandidate hs).bind fun _ hs =>
    (lex_spec hs (Lex.stays_plainScalar _ _)).bind fun _ hs => hs

theorem stays_token (hs : s.cursor.On text fault) : Stays text fault s.token := by
  refine (lex_spec hs (stays_opening s.inFlow)).bind fun ⟨o, s⟩ hs => ?_
  dsimp only at hs ⊢
  cases o with
  | streamEnd => exact stays_streamEnd hs
  | directive => exact stays_directiveLine hs
  | separator kind => exact stays_separator hs kind
  | flowStart kind => exact stays_openFlow hs kind
  | flowEnd kind => exact stays_closeFlow hs kind
  | flowEntry => exact stays_flowEntry hs
  | blockEntry => exact stays_blockEntry hs
  | key => exact stays_explicitKey hs
  | value => exact stays_colon hs
  | anchorOrAlias => exact stays_keyLike hs Lex.stays_anchorOrAlias
  | tag => exact stays_keyLike hs Lex.stays_tag
  | block => exact stays_block hs
  | quoted => exact stays_keyLike hs Lex.stays_quotedScalar
  | plain => exact stays_plain hs
  | nothing c => exact .complaint _

theorem stays_fetch (hs : s.cursor.On text fault) : Stays text fault s.fetch :=
  (stays_toNextToken hs).bind fun _ hs => (stays_dropStale hs).bind fun _ hs =>
    stays_token (stays_unwound hs _)

end Scan

namespace TokenStream

theorem unread_of_collect (budget : Nat) {s : Scan} (seen : List Token)
    (hs : s.cursor.On text fault) {f : Fault} (hf : (collect budget s seen).fault = some f) :
    Unread text fault f := by
  induction budget generalizing s seen with
  | zero => cases hf
  | succ budget ih =>
    have hfresh : Scan.Stays text fault (if s.finished then .ok s else s.dropStale) := by
      split
      · exact hs
      · exact Scan.stays_dropStale hs
    rw [collect] at hf
    split at hf
    · next g hg =>
      cases hf
      exact hfresh.of_error hg
    · next s' hs' =>
      have hs := hfresh.of_ok hs'
      split at hf
      · split at hf
        · next g hg =>
          cases hf
          exact (Scan.stays_fetch hs).of_error hg
        · next after hafter => exact ih seen ((Scan.stays_fetch hs).of_ok hafter) hf
      · split at hf
        · cases hf
        · exact ih _ (by exact hs) hf

/-- **The fault after the tokens** is accounted for by the text, or follows it. -/
theorem unread_of_ofSource {source : Source} {f : Fault} (hf : (ofSource source).fault = some f) :
    Unread source.text source.fault f :=
  unread_of_collect _ [] ⟨List.suffix_rfl, rfl⟩ hf

/-- The tokens handed on stay the first. -/
theorem prefix_collect (budget : Nat) (s : Scan) (seen : List Token) :
    seen.reverse <+: (collect budget s seen).tokens := by
  induction budget generalizing s seen with
  | zero => exact List.prefix_rfl
  | succ budget ih =>
    rw [collect]
    split
    · exact List.prefix_rfl
    · split
      · split
        · exact List.prefix_rfl
        · exact ih _ seen
      · split
        · exact List.prefix_rfl
        · next t held _ =>
          refine (List.prefix_append _ [t]).trans ?_
          rw [← List.reverse_cons]
          exact ih _ (t :: seen)

/-- **The first token** is the start of the stream. -/
theorem starts (source : Source) :
    ∃ t rest, (ofSource source).tokens = t :: rest ∧ t.kind = .streamStart := by
  have hfirst : ofSource source = collect (8 * source.text.length + 15)
      { Scan.start source with held := [], taken := 1 } (Scan.start source).held := rfl
  obtain ⟨rest, hrest⟩ := prefix_collect (8 * source.text.length + 15)
    { Scan.start source with held := [], taken := 1 } (Scan.start source).held
  rw [← hfirst] at hrest
  exact ⟨_, rest, hrest.symm, rfl⟩

end TokenStream

end DeliveryAudit.Yaml
