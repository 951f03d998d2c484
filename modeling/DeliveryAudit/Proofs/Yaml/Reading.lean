import DeliveryAudit.Proofs.Yaml.Nodes
/-!
# What ends the reading of tokens

The tokens of a text are read as nodes. The reading ends early with a
complaint, with the fault after the tokens, or because collections nest too
deeply (`Misread`): it never runs out of budget. All nodes it makes are usual.
-/

namespace DeliveryAudit.Yaml

variable {stream : TokenStream} {nests : Prop} {g : Graph} {T T' : List Token → Prop}
variable {k : Token.Kind} {L D : Nat} {α β : Type}

/-- **Why tokens are not read**, when `nests` says whether collections nest too
deeply. -/
inductive Misread (stream : TokenStream) (nests : Prop) : Fault → Prop
  | complaint (c : Complaint) : Misread stream nests (.complaint c)
  | following {f : Fault} : stream.fault = some f → Misread stream nests f
  | nesting : nests → Misread stream nests .nesting

/-- **A reading on its way**: what is still to be read are the last tokens of
the stream, and `T` holds of them; and the nodes are usual, the first of them
those of a graph `g`. -/
structure Reading.At (stream : TokenStream) (g : Graph) (T : List Token → Prop) (r : Reading) :
    Prop where
  tokens : T r.tokens
  suffix : r.tokens <:+ stream.tokens
  fault : r.fault = stream.fault
  grows : g.Grows r.graph
  usual : ∀ i, (r.graph.node i).Usual stream

theorem Reading.At.mono {r : Reading} (h : r.At stream g T) (hT : ∀ ts, T ts → T' ts) :
    r.At stream g T' :=
  ⟨hT _ h.tokens, h.suffix, h.fault, h.grows, h.usual⟩

theorem Reading.At.has {r : Reading} (h : r.At stream g (Next k T)) (hk : k ≠ .streamEnd) :
    stream.Has k := by
  rcases h.tokens.2 with ⟨-, rfl⟩ | ⟨t, rest, hrest, rfl⟩
  · exact absurd rfl hk
  · exact ⟨t, h.suffix.subset (hrest ▸ List.mem_cons_self), rfl⟩

/-- There is room for a token before the end. -/
theorem Next.pos {ts : List Token} (h : Next k (Within L D) ts) (hk : k ≠ .streamEnd) : 0 < L := by
  rcases h.2 with ⟨-, rfl⟩ | ⟨t, rest, rfl, -⟩
  · exact absurd rfl hk
  · exact Nat.lt_of_lt_of_le (Nat.succ_pos _) h.1.1

/-- Before a token that starts a collection there is room for one. -/
theorem Next.opens {ts : List Token} (h : Next k (Within L D) ts)
    (hk : ∀ d, k.depthBefore d = d + 1) : 0 < L ∧ 0 < D := by
  refine ⟨h.pos ?_, ?_⟩
  · rintro rfl
    exact Nat.succ_ne_self 0 (hk 0).symm
  · rcases h.2 with ⟨-, rfl⟩ | ⟨t, rest, rfl, rfl⟩
    · exact absurd (hk 0).symm (Nat.succ_ne_self 0)
    · have hdepth := h.1.2
      rw [deepest, hk] at hdepth
      exact Nat.lt_of_lt_of_le (Nat.succ_pos _) hdepth

namespace Read

/-- **An action on tokens** with `T` that leaves tokens with `T'`. -/
abbrev Leaves (stream : TokenStream) (nests : Prop) (T T' : List Token → Prop)
    (action : Read α) : Prop :=
  ∀ g, Triple (Misread stream nests) (Reading.At stream g T) action fun _ =>
    Reading.At stream g T'

theorem leaves_pure (a : α) : Leaves stream nests T T (pure a : Read α) := fun _ =>
  Triple.pure fun _ h => h

theorem Leaves.mono {action : Read α} {S S' : List Token → Prop}
    (h : Leaves stream nests T T' action) (hS : ∀ ts, S ts → T ts) (hS' : ∀ ts, T' ts → S' ts) :
    Leaves stream nests S S' action := fun g =>
  ((h g).of_pre fun _ hr => hr.mono hS).mono fun _ _ hr => hr.mono hS'

/-- Tokens may have been looked at before. -/
theorem Leaves.looked {action : Read α} (h : Leaves stream nests T T' action) :
    Leaves stream nests (Next k T) T' action :=
  h.mono (fun _ h => h.1) fun _ h => h

/-- After fewer tokens there is room for more. -/
theorem Leaves.fewer {D' : Nat} {action : Read α}
    (h : Leaves stream nests T (Within (L - 1) D') action) :
    Leaves stream nests T (Within L D') action :=
  h.mono (fun _ h => h) fun _ h => ⟨Nat.le_trans h.1 (Nat.sub_le L 1), h.2⟩

/-! ## Looking at a token and passing it -/

theorem looks_peek : Triple (Misread stream nests) (Reading.At stream g T) peek fun t =>
    Reading.At stream g (Next t.kind T) := by
  intro r hr
  cases htokens : r.tokens with
  | cons t rest =>
    have hpeek : peek r = .ok (t, r) := by simp only [peek, htokens]
    rw [hpeek]
    exact ⟨⟨hr.tokens, .inr ⟨t, rest, htokens, rfl⟩⟩, hr.suffix, hr.fault, hr.grows, hr.usual⟩
  | nil =>
    cases hfault : r.fault with
    | some f =>
      have hpeek : peek r = .error f := by simp only [peek, htokens, hfault]
      rw [hpeek]
      exact .following (hr.fault ▸ hfault)
    | none =>
      have hpeek : peek r = .ok (⟨.streamEnd, ⟨0, 0, 0⟩, ⟨0, 0, 0⟩⟩, r) := by
        simp only [peek, htokens, hfault]
      rw [hpeek]
      exact ⟨⟨hr.tokens, .inl ⟨htokens, rfl⟩⟩, hr.suffix, hr.fault, hr.grows, hr.usual⟩

theorem looks_kind : Triple (Misread stream nests) (Reading.At stream g T) kind fun k =>
    Reading.At stream g (Next k T) :=
  looks_peek.bind fun _ => Triple.pure fun _ h => h

theorem leaves_take (h : ∀ ts, T ts → T' ts.tail) : Leaves stream nests T T' take := by
  intro g
  refine looks_peek.bind fun t => ?_
  refine (Triple.modify fun r hr => ?_).bind fun _ => Triple.pure fun _ hr => hr
  exact ⟨h _ hr.tokens.1, (List.tail_suffix _).trans hr.suffix, hr.fault, hr.grows, hr.usual⟩

/-- A token that is next is passed. -/
theorem leaves_taken : Leaves stream nests (Next k (Within L D))
    (Within (L - 1) (k.depthAfter D)) take :=
  leaves_take fun _ h => Within.tail h

/-- The end of a collection is passed. -/
theorem leaves_closed (hk : k.depthAfter D = D + 1) (a : α) :
    Leaves stream nests (Next k (Within L D)) (Within L (D + 1)) (do
      let _ ← take
      return a) := by
  refine Leaves.fewer fun g => ?_
  exact (hk ▸ leaves_taken g).bind fun _ => Triple.pure fun _ h => h

/-- A collection from the token that starts it to the one that ends it. -/
theorem leaves_opened {body : Read α} (hk : ∀ d, k.depthBefore d = d + 1)
    (hk' : k.depthAfter D = D - 1)
    (h : 0 < L → 0 < D → Leaves stream nests (Within (L - 1) (D - 1))
      (Within (L - 1) (D - 1 + 1)) body) :
    Leaves stream nests (Next k (Within L D)) (Within L D) (do
      let _ ← take
      body) := by
  intro g
  refine Triple.with_fact (fun r hr => hr.tokens.opens hk) fun ⟨hL, hD⟩ => ?_
  refine (hk' ▸ leaves_taken g).bind fun _ => ((h hL hD).mono (fun _ h => h) fun ts h => ?_) g
  exact ⟨Nat.le_trans h.1 (Nat.sub_le L 1), Nat.sub_add_cancel hD ▸ h.2⟩

section Complaints

variable {P : Reading → Prop} {Q : α → Reading → Prop}

theorem fails_complain (context : Option (Activity × Mark)) (problem : Problem) (m : Mark) :
    Triple (Misread stream nests) P (complain context problem m : Read α) Q :=
  Triple.throw fun _ _ => .complaint _

theorem fails_unexpected (activity : Activity) (since : Mark) (problem : String → Problem) :
    Triple (Misread stream nests) (Reading.At stream g T)
      (unexpected activity since problem : Read α) Q :=
  looks_peek.bind fun _ => fails_complain _ _ _

end Complaints

/-! ## Properties -/

/-- What is passed before a node is no more than an anchor and a tag. -/
theorem reads_properties : Triple (Misread stream nests) (Reading.At stream g (Within L D))
    properties fun p r => (p.tag ≠ none → stream.Tagged) ∧ r.At stream g (Within L D) := by
  have hshorter : ∀ {k : Token.Kind}, k.depthAfter D = D →
      Leaves stream nests (Next k (Within L D)) (Within L D) take := fun hk =>
    leaves_taken.mono (fun _ h => h) fun ts h => ⟨by have := h.1; omega, hk ▸ h.2⟩
  refine looks_peek.bind fun t => ?_
  cases hkind : t.kind with
  | anchor name =>
    dsimp only
    refine (hshorter rfl g).bind fun _ => looks_peek.bind fun u => ?_
    cases hu : u.kind with
    | tag handle suffix =>
      dsimp only
      refine Triple.with_fact (p := stream.Tagged) (fun r hr => ⟨handle, suffix, hr.has nofun⟩) ?_
      intro htagged
      refine (hshorter rfl g).bind fun _ => Triple.pure fun r hr => ⟨fun _ => htagged, hr⟩
    | _ => exact Triple.pure fun r hr => ⟨nofun, hr.mono fun _ h => h.1⟩
  | tag handle suffix =>
    dsimp only
    refine Triple.with_fact (p := stream.Tagged) (fun r hr => ⟨handle, suffix, hr.has nofun⟩) ?_
    intro htagged
    refine (hshorter rfl g).bind fun _ => looks_peek.bind fun u => ?_
    cases hu : u.kind with
    | anchor name =>
      dsimp only
      refine (hshorter rfl g).bind fun _ => Triple.pure fun r hr => ⟨fun _ => htagged, hr⟩
    | _ => exact Triple.pure fun r hr => ⟨fun _ => htagged, hr.mono fun _ h => h.1⟩
  | _ => exact Triple.pure fun r hr => ⟨nofun, hr.mono fun _ h => h.1⟩

theorem reads_fullTag (p : Properties) (hp : p.tag ≠ none → stream.Tagged) :
    Triple (Misread stream nests) (Reading.At stream g T) (fullTag p) fun tag r =>
      (tag ≠ none → stream.Tagged) ∧ r.At stream g T := by
  unfold fullTag
  split
  · exact Triple.pure fun _ hr => ⟨nofun, hr⟩
  · next suffix m htag =>
    exact Triple.pure fun _ hr => ⟨fun _ => hp (by rw [htag]; nofun), hr⟩
  · next handle suffix m htag =>
    refine Triple.state fun r _ => ?_
    split
    · exact Triple.pure fun _ hr => ⟨fun _ => hp (by rw [htag]; nofun), hr⟩
    · exact fails_complain _ _ _

/-! ## Nodes -/

theorem leaves_add {n : Node} (hn : n.Usual stream) : Leaves stream nests T T (add n) := by
  intro g
  refine Triple.get.bind fun r => ?_
  refine (Triple.modify fun s hs => ?_).bind fun _ => Triple.pure fun _ hs => hs
  have hs := hs.2
  refine ⟨hs.tokens, hs.suffix, hs.fault, hs.grows.trans (Graph.grows_add _ _), fun i => ?_⟩
  change ((s.graph.add n).node i).Usual stream
  rw [Graph.node_add]
  split
  · exact hn
  · exact hs.usual i

theorem leaves_empty (m : Mark) : Leaves stream nests T T (empty m) :=
  leaves_add (Node.usual_empty m)

theorem leaves_checkAnchor (anchor : Option String) (start : Mark) :
    Leaves stream nests T T (checkAnchor anchor start) := by
  intro g
  unfold checkAnchor
  split
  · exact Triple.pure fun _ h => h
  · refine Triple.state fun r _ => ?_
    split
    · exact Triple.pure fun _ h => h
    · exact Triple.state fun _ _ => fails_complain _ _ _

theorem leaves_setAnchor (anchor : Option String) (id : NodeId) :
    Leaves stream nests T T (setAnchor anchor id) := by
  intro g
  unfold setAnchor
  split
  · exact Triple.pure fun _ h => h
  · exact Triple.modify fun _ h => ⟨h.tokens, h.suffix, h.fault, h.grows, h.usual⟩

theorem leaves_scalar (anchor : Option String) (start : Mark) (tag : String) (t : Text)
    (h : Node.Usual stream ⟨start, tag, .scalar t⟩) :
    Leaves stream nests T T (scalar anchor start tag t) := fun g =>
  (leaves_checkAnchor anchor start g).bind fun _ => (leaves_add h g).bind fun id =>
    (leaves_setAnchor anchor id g).bind fun _ => leaves_pure id g

/-- **A collection** whose parts are read, and come to a content that is usual
with its tag. -/
theorem leaves_collection {anchor : Option String} {start : Mark} {tag : String}
    {empty : Content} {parts : Read Content} (hempty : Node.Usual stream ⟨start, tag, empty⟩)
    (hparts : ∀ g, Triple (Misread stream nests) (Reading.At stream g T) parts fun content r =>
      (∀ n : Node, n.tag = tag → Node.Usual stream { n with content := content }) ∧
        r.At stream g T') :
    Leaves stream nests T T' (collection anchor start tag empty parts) := by
  intro g
  refine (leaves_checkAnchor anchor start g).bind fun _ r hr => ?_
  have hadded : Reading.At stream (r.graph.add ⟨start, tag, empty⟩) T
      { r with graph := r.graph.add ⟨start, tag, empty⟩ } := by
    refine ⟨hr.tokens, hr.suffix, hr.fault, Graph.Grows.refl _, fun i => ?_⟩
    rw [Graph.node_add]
    split
    · exact hempty
    · exact hr.usual i
  suffices hrest : Triple (Misread stream nests)
      (Reading.At stream (r.graph.add ⟨start, tag, empty⟩) T) (do
        setAnchor anchor r.graph.size
        let content ← parts
        modify fun s => { s with graph := s.graph.setContent r.graph.size content }
        return r.graph.size) fun _ => Reading.At stream g T' from hrest _ hadded
  refine (leaves_setAnchor anchor _ _).bind fun _ => (hparts _).bind fun content => ?_
  refine (Triple.modify fun s hs => ?_).bind fun _ => Triple.pure fun _ hs => hs
  obtain ⟨hcontent, hs⟩ := hs
  -- The node of the collection has been there since before its parts, with its tag.
  have htag : (s.graph.node r.graph.size).tag = tag := by
    rw [hs.grows.2 _ (by rw [Graph.size_add]; exact Nat.lt_succ_self _), Graph.node_add, if_pos rfl]
  refine ⟨hs.tokens, hs.suffix, hs.fault, hr.grows.trans ((Graph.grows_add _ _).trans
    (hs.grows.trans (Graph.grows_setContent _ _ _))), fun i => ?_⟩
  change ((s.graph.setContent r.graph.size content).node i).Usual stream
  rw [Graph.node_setContent]
  split
  · next hi =>
    obtain ⟨rfl, -⟩ := hi
    exact hcontent _ htag
  · exact hs.usual i

theorem usual_scalar {tag : Option String} {plain : Bool} {t : Text} (start : Mark)
    (htag : tag ≠ none → stream.Tagged) (h : plain = true → stream.Has (.scalar t true) ∨ t = []) :
    Node.Usual stream ⟨start, scalarTag tag plain t, .scalar t⟩ := by
  cases tag with
  | some tag => exact .inl (htag nofun)
  | none =>
    cases plain with
    | false => exact .inr (.inl rfl)
    | true =>
      rcases h rfl with h | rfl
      · exact .inr (.inr (.inr ⟨h, rfl⟩))
      · exact .inr (.inr (.inl rfl))

theorem usual_sequence {tag : Option String} (htag : tag ≠ none → stream.Tagged)
    {n : Node} (hn : n.tag = collectionTag tag .seq) (items : List NodeId) :
    Node.Usual stream { n with content := .sequence items } := by
  cases tag with
  | some tag => exact .inl (htag nofun)
  | none => exact .inr hn

theorem usual_mapping {tag : Option String} (htag : tag ≠ none → stream.Tagged)
    {n : Node} (hn : n.tag = collectionTag tag .map) (entries : List Entry) :
    Node.Usual stream { n with content := .mapping entries } := by
  cases tag with
  | some tag => exact .inl (htag nofun)
  | none => exact .inr hn

/-- A sequence whose items are read. -/
theorem leaves_sequence {anchor tag : Option String} {start : Mark} {parts : Read (List NodeId)}
    (htag : tag ≠ none → stream.Tagged) (hparts : Leaves stream nests T T' parts) :
    Leaves stream nests T T' (collection anchor start (collectionTag tag .seq) (.sequence [])
      (return .sequence (← parts))) :=
  leaves_collection
    (usual_sequence (n := ⟨start, collectionTag tag .seq, .sequence []⟩) htag rfl []) fun g =>
    (hparts g).bind fun items => Triple.pure fun _ hr =>
      ⟨fun _ hn => usual_sequence htag hn items, hr⟩

/-- A mapping whose entries are read. -/
theorem leaves_mapping {anchor tag : Option String} {start : Mark} {parts : Read (List Entry)}
    (htag : tag ≠ none → stream.Tagged) (hparts : Leaves stream nests T T' parts) :
    Leaves stream nests T T' (collection anchor start (collectionTag tag .map) (.mapping [])
      (return .mapping (← parts))) :=
  leaves_collection
    (usual_mapping (n := ⟨start, collectionTag tag .map, .mapping []⟩) htag rfl []) fun g =>
    (hparts g).bind fun entries => Triple.pure fun _ hr =>
      ⟨fun _ hn => usual_mapping htag hn entries, hr⟩

/-- An alias stands for a node that is there. -/
theorem reads_alias (name : String) (m : Mark) :
    Leaves stream nests (Next (.reference name) (Within L D)) (Within L D) (do
      let _ ← take
      match (← get).anchors.lookup name with
      | some id => return id
      | none => complain none (.undefinedAlias name) m : Read NodeId) := by
  intro g
  refine (leaves_taken.fewer g).bind fun _ => Triple.state fun r _ => ?_
  split
  · exact Triple.pure fun _ hr => hr
  · exact fails_complain _ _ _

/-- Where no collection may be started, a token that starts one is too much. -/
theorem fails_nesting {Q : α → Reading → Prop} (hk : ∀ d, k.depthBefore d = d + 1)
    (hd : nests ∨ D = 0) : Triple (Misread stream nests)
      (Reading.At stream g (Next k (Within L D))) (throw .nesting : Read α) Q := by
  refine Triple.throw fun r hr => .nesting (hd.resolve_right ?_)
  exact Nat.ne_of_gt (hr.tokens.opens hk).2

/-! ## Budgets

Between two tokens that are passed there are no more than three calls, so that
three times as many rounds as tokens are enough, and a few more. A collection
may have one without an indentation of its own inside, or be a mapping with one
entry in a sequence, so that the depth goes down by two for every collection
that a token starts. -/

/-- **What a budget is enough for.** -/
structure Reads (stream : TokenStream) (nests : Prop) (budget : Nat) : Prop where
  node : ∀ {L D depth block loose}, 3 * L + 4 ≤ budget → nests ∨ 2 * D + loose.toNat ≤ depth →
    Leaves stream nests (Within L D) (Within L D) (node depth block loose budget)
  blockSequence : ∀ {L D depth since seen}, 3 * L + 2 ≤ budget → nests ∨ 2 * D + 1 ≤ depth →
    Leaves stream nests (Within L D) (Within L (D + 1)) (blockSequence depth since seen budget)
  looseSequence : ∀ {L D depth seen}, 3 * L + 3 ≤ budget → nests ∨ 2 * D ≤ depth →
    Leaves stream nests (Within L D) (Within L D) (looseSequence depth seen budget)
  blockMapping : ∀ {L D depth since seen}, 3 * L + 2 ≤ budget → nests ∨ 2 * D + 1 ≤ depth →
    Leaves stream nests (Within L D) (Within L (D + 1)) (blockMapping depth since seen budget)
  flowValue : ∀ {L D depth inMapping}, 3 * L + 2 ≤ budget → nests ∨ 2 * D ≤ depth →
    Leaves stream nests (Within L D) (Within L D) (flowValue depth inMapping budget)
  flowSequence : ∀ {L D depth since first seen}, 3 * L + 4 + 2 * first.toNat ≤ budget →
    nests ∨ 2 * D + 1 ≤ depth → Leaves stream nests (Within L D) (Within L (D + 1))
      (flowSequence depth since first seen budget)
  flowSequenceEntry : ∀ {L D depth since seen}, 3 * L + 5 ≤ budget → nests ∨ 2 * D + 1 ≤ depth →
    Leaves stream nests (Within L D) (Within L (D + 1)) (flowSequenceEntry depth since seen budget)
  flowMapping : ∀ {L D depth since first seen}, 3 * L + 4 + 2 * first.toNat ≤ budget →
    nests ∨ 2 * D + 1 ≤ depth → Leaves stream nests (Within L D) (Within L (D + 1))
      (flowMapping depth since first seen budget)
  flowMappingEntry : ∀ {L D depth since seen}, 3 * L + 5 ≤ budget → nests ∨ 2 * D + 1 ≤ depth →
    Leaves stream nests (Within L D) (Within L (D + 1)) (flowMappingEntry depth since seen budget)

/-- A collection that a token starts has the budget that its first part asks
for, and goes one level deeper. -/
theorem leaves_started {depth budget : Nat} {body : Read α} (hk : ∀ d, k.depthBefore d = d + 1)
    (hk' : k.depthAfter D = D - 1) (hb : 3 * L + 4 ≤ budget + 1) (hd : nests ∨ 2 * D ≤ depth + 1)
    (h : ∀ {L' D'}, 3 * L' + 4 + 2 * true.toNat ≤ budget → nests ∨ 2 * D' + 1 ≤ depth →
      Leaves stream nests (Within L' D') (Within L' (D' + 1)) body) :
    Leaves stream nests (Next k (Within L D)) (Within L D) (do
      let _ ← take
      body) := by
  refine leaves_opened hk hk' fun hL hD => h ?_ ?_
  · rw [Bool.toNat_true]
    omega
  · exact hd.imp_right fun hdepth => by omega

section Steps

variable {depth budget : Nat} {since : Mark} (ih : Reads stream nests budget)
include ih

theorem reads_blockSequence {seen : List NodeId} (hb : 3 * L + 2 ≤ budget + 1)
    (hd : nests ∨ 2 * D + 1 ≤ depth) : Leaves stream nests (Within L D) (Within L (D + 1))
      (blockSequence depth since seen (budget + 1)) := by
  intro g
  rw [blockSequence]
  refine looks_kind.bind fun k => ?_
  cases k with
  | blockEntry =>
    refine Triple.with_fact (fun r hr => hr.tokens.pos nofun) fun hL => ?_
    refine (leaves_taken g).bind fun dash => looks_kind.bind fun k => ?_
    extract_lets more
    have hmore : ∀ n, Leaves stream nests (Within (L - 1) D) (Within L (D + 1)) (more n) :=
      fun n => (ih.blockSequence (by omega) hd).fewer
    cases k with
    | blockEntry | blockEnd => exact ((leaves_empty _).looked g).bind fun n => hmore n g
    | _ =>
      refine ((ih.node ?_ ?_).looked g).bind fun n => hmore n g
      · omega
      · exact hd.imp_right fun h => Nat.le_of_lt h
  | blockEnd => exact leaves_closed rfl _ g
  | _ => exact fails_unexpected _ _ _

theorem reads_looseSequence {seen : List NodeId} (hb : 3 * L + 3 ≤ budget + 1)
    (hd : nests ∨ 2 * D ≤ depth) : Leaves stream nests (Within L D) (Within L D)
      (looseSequence depth seen (budget + 1)) := by
  intro g
  rw [looseSequence]
  refine looks_kind.bind fun k => ?_
  cases k with
  | blockEntry =>
    refine Triple.with_fact (fun r hr => hr.tokens.pos nofun) fun hL => ?_
    refine (leaves_taken g).bind fun dash => looks_kind.bind fun k => ?_
    extract_lets more
    have hmore : ∀ n, Leaves stream nests (Within (L - 1) D) (Within L D) (more n) :=
      fun n => (ih.looseSequence (by omega) hd).fewer
    cases k with
    | blockEntry | key | value | blockEnd =>
      exact ((leaves_empty _).looked g).bind fun n => hmore n g
    | _ => exact ((ih.node (by omega) hd).looked g).bind fun n => hmore n g
  | _ => exact (leaves_pure _).looked g

theorem reads_blockMapping {seen : List Entry} (hb : 3 * L + 2 ≤ budget + 1)
    (hd : nests ∨ 2 * D + 1 ≤ depth) : Leaves stream nests (Within L D) (Within L (D + 1))
      (blockMapping depth since seen (budget + 1)) := by
  intro g
  rw [blockMapping]
  refine looks_kind.bind fun k => ?_
  cases k with
  | key =>
    refine Triple.with_fact (fun r hr => hr.tokens.pos nofun) fun hL => ?_
    refine (leaves_taken g).bind fun mark => looks_kind.bind fun k => ?_
    have hnode : Leaves stream nests (Within (L - 1) D) (Within (L - 1) D)
        (node depth true true budget) := ih.node (by omega) hd
    extract_lets valued
    have hvalued : ∀ n, Leaves stream nests (Within (L - 1) D) (Within L (D + 1)) (valued n) := by
      intro n g
      refine looks_kind.bind fun k => ?_
      extract_lets more
      have hmore : ∀ m, Leaves stream nests (Within (L - 1) D) (Within L (D + 1)) (more m) :=
        fun m => (ih.blockMapping (by omega) hd).fewer
      cases k with
      | value =>
        refine (leaves_taken.fewer g).bind fun colon => looks_kind.bind fun k => ?_
        cases k with
        | key | value | blockEnd => exact ((leaves_empty _).looked g).bind fun m => hmore m g
        | _ => exact (hnode.looked g).bind fun m => hmore m g
      | _ =>
        refine looks_peek.bind fun t => ?_
        exact ((leaves_empty _).looked.looked g).bind fun m => hmore m g
    cases k with
    | key | value | blockEnd => exact ((leaves_empty _).looked g).bind fun n => hvalued n g
    | _ => exact (hnode.looked g).bind fun n => hvalued n g
  | blockEnd => exact leaves_closed rfl _ g
  | _ => exact fails_unexpected _ _ _

theorem reads_flowValue {inMapping : Bool} (hb : 3 * L + 2 ≤ budget + 1)
    (hd : nests ∨ 2 * D ≤ depth) : Leaves stream nests (Within L D) (Within L D)
      (flowValue depth inMapping (budget + 1)) := by
  intro g
  rw [flowValue]
  refine looks_kind.bind fun k => ?_
  cases k with
  | value =>
    refine Triple.with_fact (fun r hr => hr.tokens.pos nofun) fun hL => ?_
    refine (leaves_taken g).bind fun colon => looks_kind.bind fun k => ?_
    have hnode : Leaves stream nests (Within (L - 1) D) (Within L D)
        (node depth false false budget) := (ih.node (by omega) hd).fewer
    have hempty : ∀ m, Leaves stream nests (Within (L - 1) D) (Within L D) (empty m) :=
      fun m => (leaves_empty m).fewer
    split
    · exact (hempty _).looked g
    · exact (hempty _).looked g
    · exact (hempty _).looked g
    · exact hnode.looked g
  | _ =>
    refine looks_peek.bind fun t => ?_
    exact (leaves_empty _).looked.looked g

theorem reads_flowSequence {first : Bool} {seen : List NodeId}
    (hb : 3 * L + 4 + 2 * first.toNat ≤ budget + 1) (hd : nests ∨ 2 * D + 1 ≤ depth) :
    Leaves stream nests (Within L D) (Within L (D + 1))
      (flowSequence depth since first seen (budget + 1)) := by
  intro g
  rw [flowSequence]
  refine looks_kind.bind fun k => ?_
  split
  · exact leaves_closed rfl _ g
  · refine Triple.with_fact (fun r hr => hr.tokens.pos nofun) fun hL => ?_
    refine (leaves_taken g).bind fun comma => ?_
    exact (ih.flowSequenceEntry (by omega) hd).fewer g
  · refine (ih.flowSequenceEntry ?_ hd).looked g
    rw [Bool.toNat_true] at hb
    omega
  · exact fails_unexpected _ _ _

theorem reads_flowSequenceEntry {seen : List NodeId} (hb : 3 * L + 5 ≤ budget + 1)
    (hd : nests ∨ 2 * D + 1 ≤ depth) : Leaves stream nests (Within L D) (Within L (D + 1))
      (flowSequenceEntry depth since seen (budget + 1)) := by
  intro g
  rw [flowSequenceEntry]
  refine looks_kind.bind fun k => ?_
  cases k with
  | flowSequenceEnd => exact leaves_closed rfl _ g
  | key =>
    refine Triple.with_fact (fun r hr => hr.tokens.pos nofun) fun hL => ?_
    refine (leaves_taken g).bind fun mark => looks_kind.bind fun k => ?_
    -- The entry is a mapping of its own, one collection deeper.
    have hd' : nests ∨ 2 * D ≤ depth - 1 := hd.imp_right fun h => Nat.le_sub_one_of_lt h
    extract_lets valued
    have hvalued : ∀ n, Leaves stream nests (Within (L - 1) D) (Within L (D + 1)) (valued n) := by
      intro n g
      refine (ih.flowValue (by omega) hd' g).bind fun v => ?_
      refine (leaves_add (.inr rfl) g).bind fun m => ?_
      refine (ih.flowSequence ?_ hd).fewer g
      rw [Bool.toNat_false]
      omega
    split
    · exact ((leaves_empty _).looked g).bind fun n => hvalued n g
    · exact ((leaves_empty _).looked g).bind fun n => hvalued n g
    · exact ((leaves_empty _).looked g).bind fun n => hvalued n g
    · exact ((ih.node (by omega) hd').looked g).bind fun n => hvalued n g
  | _ =>
    refine ((ih.node ?_ ?_).looked g).bind fun n => ih.flowSequence ?_ hd g
    · omega
    · exact hd.imp_right fun h => Nat.le_of_lt h
    · rw [Bool.toNat_false]
      omega

theorem reads_flowMapping {first : Bool} {seen : List Entry}
    (hb : 3 * L + 4 + 2 * first.toNat ≤ budget + 1) (hd : nests ∨ 2 * D + 1 ≤ depth) :
    Leaves stream nests (Within L D) (Within L (D + 1))
      (flowMapping depth since first seen (budget + 1)) := by
  intro g
  rw [flowMapping]
  refine looks_kind.bind fun k => ?_
  split
  · exact leaves_closed rfl _ g
  · refine Triple.with_fact (fun r hr => hr.tokens.pos nofun) fun hL => ?_
    refine (leaves_taken g).bind fun comma => ?_
    exact (ih.flowMappingEntry (by omega) hd).fewer g
  · refine (ih.flowMappingEntry ?_ hd).looked g
    rw [Bool.toNat_true] at hb
    omega
  · exact fails_unexpected _ _ _

theorem reads_flowMappingEntry {seen : List Entry} (hb : 3 * L + 5 ≤ budget + 1)
    (hd : nests ∨ 2 * D + 1 ≤ depth) : Leaves stream nests (Within L D) (Within L (D + 1))
      (flowMappingEntry depth since seen (budget + 1)) := by
  intro g
  rw [flowMappingEntry]
  have hd' : nests ∨ 2 * D ≤ depth := hd.imp_right fun h => Nat.le_of_lt h
  refine looks_kind.bind fun k => ?_
  cases k with
  | flowMappingEnd => exact leaves_closed rfl _ g
  | key =>
    refine Triple.with_fact (fun r hr => hr.tokens.pos nofun) fun hL => ?_
    refine (leaves_taken g).bind fun mark => looks_kind.bind fun k => ?_
    extract_lets valued
    have hvalued : ∀ n, Leaves stream nests (Within (L - 1) D) (Within L (D + 1)) (valued n) := by
      intro n g
      refine (ih.flowValue (by omega) hd' g).bind fun v => (ih.flowMapping ?_ hd).fewer g
      rw [Bool.toNat_false]
      omega
    split
    · exact ((leaves_empty _).looked g).bind fun n => hvalued n g
    · exact ((leaves_empty _).looked g).bind fun n => hvalued n g
    · exact ((leaves_empty _).looked g).bind fun n => hvalued n g
    · exact ((ih.node (by omega) hd').looked g).bind fun n => hvalued n g
  | _ =>
    refine ((ih.node (by omega) hd').looked g).bind fun n => looks_peek.bind fun t => ?_
    refine ((leaves_empty _).looked g).bind fun v => ih.flowMapping ?_ hd g
    rw [Bool.toNat_false]
    omega

/-- **A node**: an alias, or properties and then a scalar or a collection. -/
theorem reads_node {block loose : Bool} (hb : 3 * L + 4 ≤ budget + 1)
    (hd : nests ∨ 2 * D + loose.toNat ≤ depth) : Leaves stream nests (Within L D) (Within L D)
      (node depth block loose (budget + 1)) := by
  intro g
  rw [node]
  refine looks_peek.bind fun t => ?_
  split
  · next name hkind =>
    rw [hkind]
    exact reads_alias name t.first g
  · refine Triple.of_pre ?_ fun r hr => hr.mono fun _ h => h.1
    refine reads_properties.bind fun p => Triple.with_fact (fun r hr => hr.1) fun hp => ?_
    refine Triple.of_pre ?_ fun r hr => hr.2
    refine (reads_fullTag p hp).bind fun tag => Triple.with_fact (fun r hr => hr.1) fun htag => ?_
    refine Triple.of_pre ?_ fun r hr => hr.2
    refine looks_peek.bind fun u => ?_
    have hnested : nests ∨ 2 * D ≤ depth := hd.imp_right fun h => by omega
    have hnone : depth = 0 → nests ∨ D = 0 := fun h => hnested.imp_right fun h' => by omega
    extract_lets start sequence mapping
    generalize u.kind = k
    split
    · next content plain =>
      refine Triple.with_fact (p := plain = true → stream.Has (.scalar content true))
        (fun r hr hplain => hplain ▸ hr.has nofun) fun hcontent => ?_
      refine (leaves_taken.fewer g).bind fun _ => ?_
      exact leaves_scalar _ _ _ _ (usual_scalar start htag fun h => .inl (hcontent h)) g
    · exact leaves_sequence htag (leaves_started (fun _ => rfl) rfl hb hnested ih.flowSequence) g
    · exact leaves_mapping htag (leaves_started (fun _ => rfl) rfl hb hnested ih.flowMapping) g
    · exact fails_nesting (fun _ => rfl) (hnone rfl)
    · exact fails_nesting (fun _ => rfl) (hnone rfl)
    · split
      · -- No token starts a loose sequence, but its items are none, so that one level is enough.
        refine leaves_sequence htag (ih.looseSequence (by omega) ?_).looked g
        exact hd.imp_right fun h => Nat.le_of_succ_le_succ h
      · refine leaves_sequence htag (leaves_started (fun _ => rfl) rfl hb hnested fun hb => ?_) g
        exact ih.blockSequence (by omega)
      · refine leaves_mapping htag (leaves_started (fun _ => rfl) rfl hb hnested fun hb => ?_) g
        exact ih.blockMapping (by omega)
      · refine Triple.throw fun r hr => .nesting (hd.resolve_right ?_)
        exact Nat.not_succ_le_zero _
      · exact fails_nesting (fun _ => rfl) (hnone rfl)
      · exact fails_nesting (fun _ => rfl) (hnone rfl)
      · split
        · exact (leaves_scalar _ _ _ _ (usual_scalar start htag fun _ => .inr rfl)).looked g
        · exact fails_complain _ _ _

end Steps

/-- **Every budget is enough** for what it is meant for. -/
theorem reads (stream : TokenStream) (nests : Prop) (budget : Nat) :
    Reads stream nests budget := by
  induction budget with
  | zero =>
    constructor
    all_goals
      intros
      omega
  | succ budget ih =>
    exact ⟨reads_node ih, reads_blockSequence ih, reads_looseSequence ih, reads_blockMapping ih,
      reads_flowValue ih, reads_flowSequence ih, reads_flowSequenceEntry ih, reads_flowMapping ih,
      reads_flowMappingEntry ih⟩

/-! ## Documents -/

/-- A token that starts or ends no collection is passed. -/
theorem leaves_takeNeutral {t : Token} {rest : List Token}
    (ht : t.kind.depthBefore (deepest rest) = deepest rest) :
    Leaves stream nests (fun ts => Within L D ts ∧ ts = t :: rest)
      (fun ts => Within L D ts ∧ ts = rest) take := by
  refine leaves_take ?_
  rintro ts ⟨⟨hlength, hdepth⟩, rfl⟩
  rw [deepest, ht] at hdepth
  exact ⟨⟨Nat.le_of_succ_le hlength, hdepth⟩, rfl⟩

theorem reads_directives (version : Bool) (handles : List (String × String))
    (tokens : List Token) :
    Leaves stream nests (fun ts => Within L D ts ∧ ts = tokens) (Within L D)
      (directives version handles tokens) := by
  intro g
  induction tokens generalizing version handles with
  | nil =>
    unfold directives
    exact looks_peek.bind fun _ => Triple.pure fun _ hr => hr.mono fun _ h => h.1.1
  | cons t rest ih =>
    obtain ⟨kind, first, last⟩ := t
    cases kind with
    | directive d =>
      unfold directives
      refine (leaves_takeNeutral rfl g).bind fun _ => ?_
      cases d with
      | version major minor =>
        dsimp only
        split
        · exact (fails_complain _ _ _).bind fun _ => Triple.never
        split
        · exact (fails_complain _ _ _).bind fun _ => Triple.never
        · exact ih _ _
      | tag handle stem =>
        dsimp only
        split
        · exact (fails_complain _ _ _).bind fun _ => Triple.never
        · exact ih _ _
      | other => exact ih _ _
    | _ => exact Triple.pure fun _ hr => hr.mono fun _ h => h.1

theorem reads_skipDocumentEnds (tokens : List Token) :
    Leaves stream nests (fun ts => Within L D ts ∧ ts = tokens) (Within L D)
      (skipDocumentEnds tokens) := by
  intro g
  induction tokens with
  | nil =>
    unfold skipDocumentEnds
    exact looks_peek.bind fun _ => Triple.pure fun _ hr => hr.mono fun _ h => h.1.1
  | cons t rest ih =>
    obtain ⟨kind, first, last⟩ := t
    cases kind with
    | documentEnd =>
      exact (leaves_takeNeutral rfl g).bind fun _ => ih
    | _ => exact looks_peek.bind fun _ => Triple.pure fun _ hr => hr.mono fun _ h => h.1.1

/-- The tokens that have been looked up are those that are there. -/
theorem at_tokens {r s : Reading} (h : r = s ∧ s.At stream g T) :
    s.At stream g fun ts => T ts ∧ ts = r.tokens := by
  obtain ⟨rfl, hs⟩ := h
  exact ⟨⟨hs.tokens, rfl⟩, hs.suffix, hs.fault, hs.grows, hs.usual⟩

theorem reads_documentStart : Leaves stream nests (Within L D) (Within L D) documentStart := by
  intro g
  refine Triple.get.bind fun r => ?_
  refine ((reads_skipDocumentEnds r.tokens g).of_pre fun _ => at_tokens).bind fun _ => ?_
  refine looks_kind.bind fun k => ?_
  split
  · exact (leaves_pure false).looked g
  refine Leaves.looked (T := Within L D) ?_ g
  intro g
  refine Triple.get.bind fun r => ?_
  refine ((reads_directives _ _ r.tokens g).of_pre fun _ => at_tokens).bind fun handles => ?_
  refine looks_peek.bind fun t => ?_
  split
  · next ht =>
    rw [ht]
    refine (leaves_taken.fewer g).bind fun _ => ?_
    refine (Triple.modify fun r hr => ?_).bind fun _ => Triple.pure fun _ hr => hr
    exact ⟨hr.tokens, hr.suffix, hr.fault, hr.grows, hr.usual⟩
  · exact fails_complain _ _ _

section Whole

variable [Bounds] {budget : Nat} (hb : 3 * L + 4 ≤ budget) (hd : nests ∨ 2 * D ≤ Bounds.collections)
include hb hd

theorem reads_documentContent :
    Leaves stream nests (Within L D) (Within L D) (documentContent budget) := by
  intro g
  refine looks_peek.bind fun t => ?_
  have hnode : Leaves stream nests (Within L D) (Within L D)
      (node Bounds.collections true false budget) := (reads stream nests budget).node hb hd
  split
  · exact (leaves_empty _).looked g
  · exact (leaves_empty _).looked g
  · exact (leaves_empty _).looked g
  · exact (leaves_empty _).looked g
  · exact hnode.looked g

/-- **A document is read**, after the start of the stream. -/
theorem reads_document :
    Leaves stream nests (Next .streamStart (Within L D)) (Within L D) (document budget) := by
  intro g
  refine (leaves_taken.fewer g).bind fun _ => looks_kind.bind fun k => ?_
  extract_lets rooted
  have hrooted : ∀ root, Leaves stream nests (Within L D) (Within L D) (rooted root) := by
    intro root g
    cases root with
    | none => exact leaves_pure none g
    | some root =>
      refine looks_kind.bind fun k => ?_
      extract_lets ended
      have hended : ∀ u, Leaves stream nests (Within L D) (Within L D) (ended u) := by
        intro u g
        refine Triple.get.bind fun r => ?_
        refine ((reads_skipDocumentEnds r.tokens g).of_pre fun _ => at_tokens).bind fun _ => ?_
        refine looks_peek.bind fun t => (reads_documentStart.looked g).bind fun another => ?_
        split
        · exact Triple.state fun _ _ => fails_complain _ _ _
        · exact leaves_pure _ g
      cases k with
      | documentEnd => exact (leaves_taken.fewer g).bind fun _ => hended () g
      | _ => exact (hended ()).looked g
  have hexplicit : Leaves stream nests (Within L D) (Within L D) (do
      if ← documentStart then
        let root ← some <$> documentContent budget
        rooted root
      else
        let root ← pure none
        rooted root) := by
    intro g
    refine (reads_documentStart g).bind fun found => ?_
    split
    · exact (Triple.map (reads_documentContent hb hd g)).bind fun root => hrooted root g
    · exact (leaves_pure _ g).bind fun root => hrooted root g
  cases k with
  | directive d | documentStart | streamEnd => exact hexplicit.looked g
  | _ =>
    refine Triple.bind (Q := fun _ => Reading.At stream g (Within L D))
      (Triple.modify fun r hr => ?_) fun _ => ?_
    · exact ⟨hr.tokens.1, hr.suffix, hr.fault, hr.grows, hr.usual⟩
    · exact (Triple.map ((reads stream nests budget).node hb hd g)).bind fun root => hrooted root g

end Whole

end Read

end DeliveryAudit.Yaml
