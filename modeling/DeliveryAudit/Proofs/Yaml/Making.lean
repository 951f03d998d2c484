import DeliveryAudit.Proofs.Except
import DeliveryAudit.Proofs.Yaml.Nodes
import DeliveryAudit.Yaml.Object
/-!
# What ends the making of objects

The nodes of a document become objects by their tags. This ends early with a
complaint, with a scalar that is not what its tag says, or because merges or
default keys lead on too far (`Unmade`); the collections that wait never
outnumber the rounds.
-/

namespace DeliveryAudit.Yaml

variable {stream : TokenStream} {g₀ g : Graph} {id : NodeId} {α β : Type}

/-- Whether there is a merge key. -/
def TokenStream.Merges (stream : TokenStream) : Prop :=
  ∃ t, stream.Has (.scalar t true) ∧ Schema.tagOf t = .merge

/-- Whether a plain scalar is not what its form promises. -/
def TokenStream.Breaks (stream : TokenStream) (f : ScalarFault) : Prop :=
  ∃ t m, stream.Has (.scalar t true) ∧ Scalar.value (Schema.tagOf t) t m = .error (.scalar f)

/-- **Why nodes do not become objects.** -/
inductive Unmade (stream : TokenStream) : Fault → Prop
  | complaint (c : Complaint) : Unmade stream (.complaint c)
  | scalar {f : ScalarFault} : stream.Tagged ∨ stream.Breaks f → Unmade stream (.scalar f)
  | nesting : stream.Tagged ∨ stream.Merges → Unmade stream .nesting

/-! ## Tags -/

theorem Tag.ofText?_text (t : Tag) : Tag.ofText? t.text = some t := by
  cases t with
  | _ => rfl

theorem Tag.text_of_ofText? {text : String} {t : Tag} (h : Tag.ofText? text = some t) :
    text = t.text := by
  obtain ⟨e, he, rfl⟩ := Option.map_eq_some_iff.1 h
  have htext := eq_of_beq (List.find?_some (p := fun e : String × Tag => stem ++ e.1 == text) he)
  rw [← htext]
  have hmem := List.mem_of_find?_eq_some he
  simp only [table, List.mem_cons, List.not_mem_nil, or_false] at hmem
  rcases hmem with rfl | rfl | rfl | rfl | rfl | rfl | rfl | rfl | rfl | rfl | rfl | rfl | rfl |
    rfl | rfl
  all_goals rfl

theorem Tag.text_injective : Function.Injective Tag.text := by
  intro t u h
  have := congrArg Tag.ofText? h
  rw [ofText?_text, ofText?_text] at this
  exact Option.some.inj this

/-- A node that has a tag of a scalar is one, unless tags are written. -/
theorem Node.Usual.cases {n : Node} {t : Tag} (h : n.Usual stream) (ht : n.tag = t.text)
    (hseq : t ≠ .seq) (hmap : t ≠ .map) :
    stream.Tagged ∨ ∃ text, n.content = .scalar text ∧
      (t = .str ∨ t = .null ∨ stream.Has (.scalar text true) ∧ t = Schema.tagOf text) := by
  rcases h with h | h
  · exact .inl h
  · refine .inr ?_
    cases hn : n.content with
    | scalar text =>
      rw [hn, ht] at h
      refine ⟨text, rfl, ?_⟩
      rcases h with h | h | ⟨hhas, h⟩
      · exact .inl (Tag.text_injective h)
      · exact .inr (.inl (Tag.text_injective h))
      · exact .inr (.inr ⟨hhas, Tag.text_injective h⟩)
    | sequence items =>
      rw [hn, ht] at h
      exact absurd (Tag.text_injective h) hseq
    | mapping entries =>
      rw [hn, ht] at h
      exact absurd (Tag.text_injective h) hmap

theorem Node.Usual.merges {n : Node} (h : n.Usual stream) (hn : n.has .merge = true) :
    stream.Tagged ∨ stream.Merges := by
  have ht : n.tag = Tag.merge.text := by simpa [Node.has] using hn
  rcases h.cases ht nofun nofun with h | ⟨text, -, h | h | ⟨hhas, h⟩⟩
  · exact .inl h
  · cases h
  · cases h
  · exact .inr ⟨text, hhas, h.symm⟩

/-! ## Graphs while entries are merged -/

/-- **A graph with merged entries**: it has the nodes of `g₀`, mappings where
those have them, and all are usual. -/
structure Graph.Alike (stream : TokenStream) (g₀ g : Graph) : Prop where
  size : g.size = g₀.size
  kinds : ∀ i, (g.node i).content.isMapping = (g₀.node i).content.isMapping
  usual : ∀ i, (g.node i).Usual stream

theorem Graph.Alike.setContent (h : g₀.Alike stream g)
    (hid : (g₀.node id).content.isMapping = true) (entries : List Entry) :
    g₀.Alike stream (g.setContent id (.mapping entries)) := by
  refine ⟨(Graph.size_setContent g id _).trans h.size, fun i => ?_, fun i => ?_⟩
  · rw [Graph.node_setContent]
    split
    · next hi => rw [hi.1, hid]; rfl
    · exact h.kinds i
  · rw [Graph.node_setContent]
    split
    · next hi =>
      obtain ⟨rfl, -⟩ := hi
      rcases h.usual i with htagged | husual
      · exact .inl htagged
      · have hmapping := (h.kinds i).trans hid
        cases hcontent : (g.node i).content with
        | mapping es =>
          rw [hcontent] at husual
          exact .inr husual
        | _ =>
          rw [hcontent] at hmapping
          cases hmapping
    · exact h.usual i

theorem Graph.node_setTag (g : Graph) (id i : NodeId) (t : Tag) :
    (g.setTag id t).node i =
      if i = id ∧ i < g.size then { g.node i with tag := t.text } else g.node i := by
  simp only [Graph.node, Graph.setTag, Graph.size, Array.getD_eq_getD_getElem?,
    Array.getElem?_modify]
  by_cases hi : i < g.nodes.size
  · by_cases hid : id = i
    · subst hid
      simp [hi]
    · simp [hid, Ne.symm hid]
  · simp [hi]

theorem Graph.Alike.setTag (h : g₀.Alike stream g) (hid : (g.node id).has .value = true) :
    g₀.Alike stream (g.setTag id .str) := by
  have hvalue : (g.node id).tag = Tag.value.text := by simpa [Node.has] using hid
  refine ⟨Array.size_modify.trans h.size, fun i => ?_, fun i => ?_⟩
  · rw [Graph.node_setTag, ← h.kinds]
    split
    · rfl
    · rfl
  · rw [Graph.node_setTag]
    split
    · next hi =>
      obtain ⟨rfl, -⟩ := hi
      rcases (h.usual i).cases hvalue nofun nofun with htagged | ⟨text, hcontent, -⟩
      · exact .inl htagged
      · refine .inr ?_
        rw [hcontent]
        exact .inl rfl
    · exact h.usual i

theorem Graph.Alike.nameDefaults (h : g₀.Alike stream g) (id : NodeId) :
    g₀.Alike stream (g.nameDefaults id) := by
  unfold Graph.nameDefaults
  generalize g.entries id = entries
  induction entries generalizing g with
  | nil => exact h
  | cons e entries ih =>
    rw [List.foldl_cons]
    refine ih ?_
    split
    · next he => exact h.setTag he
    · exact h

/-! ## Merging -/

/-- **An action that keeps graphs alike.** -/
abbrev Graph.Merging (stream : TokenStream) (g₀ : Graph) (action : Graph.Flattening α) : Prop :=
  Triple (Unmade stream) (g₀.Alike stream) action fun _ => g₀.Alike stream

theorem Graph.merges_of_splitMerge? (h : ∀ i, (g.node i).Usual stream) {entries others : List Entry}
    {source : NodeId} (hsplit : g.splitMerge? entries = some (source, others)) :
    stream.Tagged ∨ stream.Merges := by
  induction entries generalizing source others with
  | nil => cases hsplit
  | cons e entries ih =>
    obtain ⟨k, v⟩ := e
    rw [splitMerge?] at hsplit
    split at hsplit
    · next hk => exact (h k).merges hk
    · obtain ⟨⟨source', others'⟩, h', -⟩ := Option.map_eq_some_iff.1 hsplit
      exact ih h'

theorem Graph.merging_entriesGiven {flatten : NodeId → Graph.Flattening Unit} (target : Mark)
    (source : NodeId)
    (hflatten : ∀ i, (g₀.node i).content.isMapping = true → Graph.Merging stream g₀ (flatten i)) :
    Graph.Merging stream g₀ (Graph.entriesGiven flatten target source) := by
  refine Triple.state fun g hg => ?_
  split
  · next entries hcontent =>
    have hsource : (g₀.node source).content.isMapping = true := by
      rw [← hg.kinds, hcontent]
      rfl
    exact (hflatten source hsource).bind fun _ => Triple.state fun _ _ => Triple.pure fun _ h => h
  · refine (Triple.mapM fun item _ => ?_).bind fun parts => Triple.pure fun _ h => h
    refine Triple.state fun g hg => ?_
    dsimp only
    split
    · next hitem =>
      refine (hflatten item (hg.kinds item ▸ hitem)).bind fun _ => ?_
      exact Triple.state fun _ _ => Triple.pure fun _ h => h
    · exact Triple.throw fun _ _ => .complaint _
  · exact Triple.state fun _ _ => Triple.throw fun _ _ => .complaint _

/-- The budget is enough unless there is a merge key. -/
theorem Graph.merging_takeOver {flatten : NodeId → Graph.Flattening Unit}
    (hflatten : stream.Tagged ∨ stream.Merges →
      ∀ i, (g₀.node i).content.isMapping = true → Graph.Merging stream g₀ (flatten i))
    (hid : (g₀.node id).content.isMapping = true) (taken : List Entry) (budget : Nat)
    (hb : 0 < budget ∨ stream.Tagged ∨ stream.Merges) :
    Graph.Merging stream g₀ (Graph.takeOver flatten id taken budget) := by
  induction budget generalizing taken with
  | zero => exact Triple.throw fun _ _ => .nesting (hb.resolve_left (Nat.lt_irrefl 0))
  | succ budget ih =>
    refine Triple.state fun g hg => Triple.state fun g hg => Triple.state fun g' _ => ?_
    split
    · exact Triple.modify fun g hg => (hg.setContent hid _).nameDefaults id
    · next source others hsplit =>
      -- From here on a merge key is there, so that no budget has to be enough.
      have hmerges := Graph.merges_of_splitMerge? hg.usual hsplit
      refine Triple.bind (Q := fun _ => g₀.Alike stream) (Triple.modify fun g hg => ?_) fun _ => ?_
      · exact hg.setContent hid _
      refine (Graph.merging_entriesGiven _ source (hflatten hmerges)).bind fun given => ?_
      exact ih _ (.inr hmerges)

theorem Graph.merging_flattenWithin (depth : Nat)
    (hdepth : 0 < depth ∨ stream.Tagged ∨ stream.Merges) (id : NodeId)
    (hid : (g₀.node id).content.isMapping = true) :
    Graph.Merging stream g₀ (Graph.flattenWithin depth id) := by
  induction depth generalizing id with
  | zero => exact Triple.throw fun _ _ => .nesting (hdepth.resolve_left (Nat.lt_irrefl 0))
  | succ depth ih =>
    refine Triple.state fun g hg => ?_
    refine Graph.merging_takeOver (fun hmerges i hi => ih (.inr hmerges) i hi) hid _ _ ?_
    exact .inl (Nat.succ_pos _)

theorem Graph.merging_flatten [Bounds] (hid : (g₀.node id).content.isMapping = true) :
    Graph.Merging stream g₀ (Graph.flatten id) :=
  Graph.merging_flattenWithin _ (.inl (Nat.succ_pos _)) id hid

/-! ## Objects on their way -/

/-- **Objects on their way**, on a graph like `g₀`: the collections that wait
and the nodes without an object are no more than `n`. -/
structure Making.In (stream : TokenStream) (g₀ : Graph) (n : Nat) (m : Making) : Prop where
  alike : g₀.Alike stream m.graph
  size : m.objects.size = g₀.size
  room : m.waiting.length + m.objects.countP Option.isNone ≤ n

namespace Make

variable {n : Nat}

/-- **An action that makes objects** as far as the nodes allow. -/
abbrev Makes (stream : TokenStream) (g₀ : Graph) (n : Nat) (action : Make α) : Prop :=
  Triple (Unmade stream) (Making.In stream g₀ n) action fun _ => Making.In stream g₀ n

theorem makes_pure (a : α) : Makes stream g₀ n (pure a : Make α) := Triple.pure fun _ h => h

theorem makes_onGraph {action : Graph.Flattening α} (h : Graph.Merging stream g₀ action) :
    Makes stream g₀ n (onGraph action) := by
  intro m hm
  refine Ends.bind (h m.graph hm.alike) fun p hp => ?_
  exact ⟨hp, hm.size, hm.room⟩

theorem looks_node {P : Making → Prop} (id : NodeId) :
    Triple (Unmade stream) P (node id) fun n' m => m.graph.node id = n' ∧ P m :=
  fun _ hm => ⟨rfl, hm⟩

theorem countP_setIfInBounds_le (os : Objects) (id : NodeId) (o : Object) :
    (os.setIfInBounds id (some o)).countP Option.isNone ≤ os.countP Option.isNone := by
  by_cases hid : id < os.size
  · rw [Array.setIfInBounds, dif_pos hid, Array.countP_set]
    simp
  · rw [Array.setIfInBounds, dif_neg hid]

theorem makes_setObject (id : NodeId) (o : Object) : Makes stream g₀ n (setObject id o) := by
  refine Triple.modify fun m hm => ⟨hm.alike, Array.size_setIfInBounds.trans hm.size, ?_⟩
  exact Nat.le_trans (Nat.add_le_add_left (countP_setIfInBounds_le _ _ _) _) hm.room

/-! ### Collections that wait -/

/-- A collection that comes up waits in the place of its node. -/
theorem makes_waiting {c : Collection} : Triple (Unmade stream)
    (fun m => (id < m.objects.size ∧ (m.objects.object? id).isNone = true) ∧ m.In stream g₀ n)
    (do
      setObject id c.empty
      modify fun m => { m with waiting := (id, c) :: m.waiting })
    fun _ => Making.In stream g₀ n := by
  rintro m ⟨⟨hid, hnone⟩, hm⟩
  refine ⟨hm.alike, Array.size_setIfInBounds.trans hm.size, ?_⟩
  have hroom := hm.room
  have hget : (m.objects[id]).isNone = true := by
    rw [Objects.object?, Array.getD_eq_getD_getElem?, Array.getElem?_eq_getElem hid] at hnone
    exact hnone
  change m.waiting.length + 1 + (m.objects.setIfInBounds id _).countP _ ≤ n
  rw [Array.setIfInBounds, dif_pos hid, Array.countP_set]
  have hpos : 0 < m.objects.countP Option.isNone :=
    Array.countP_pos_iff.2 ⟨m.objects[id], Array.getElem_mem hid, hget⟩
  rw [if_pos hget, if_neg (by simp)]
  omega

/-- Beyond the nodes there is nothing but empty scalars. -/
theorem lt_size_of_ofTag? {t : Tag} {c : Collection} (ht : Tag.ofText? (g.node id).tag = some t)
    (hc : Collection.ofTag? t = some c) : id < g.size := by
  by_contra hid
  have hnode : g.node id = default := by
    rw [Graph.node, Array.getD_eq_getD_getElem?, Array.getElem?_eq_none (Nat.not_lt.1 hid)]
    rfl
  rw [hnode] at ht
  have hnull : Tag.ofText? (default : Node).tag = some .null := rfl
  obtain rfl := Option.some.inj (ht.symm.trans hnull)
  cases hc

/-! ### Leaves -/

theorem ends_textWithin (g : Graph) (depth : Nat) (id : NodeId) :
    Ends (fun f => (∃ c, f = .complaint c) ∨ f = .nesting) (fun _ => True)
      (g.textWithin depth id) := by
  induction depth generalizing id with
  | zero => exact .inr rfl
  | succ depth ih =>
    unfold Graph.textWithin
    dsimp only
    split
    · trivial
    · exact .inl ⟨_, rfl⟩
    · split
      · exact ih _
      · exact .inl ⟨_, rfl⟩

theorem textOf_scalar [Bounds] {text : Text} (h : (g.node id).content = .scalar text) :
    g.textOf id = .ok text := by
  rw [Graph.textOf, Graph.textWithin]
  simp only [h]

theorem ends_value (t : Tag) (text : Text) (m : Mark) :
    Ends (fun f => (∃ c, f = .complaint c) ∨ ∃ s, f = .scalar s) (fun _ => True)
      (Scalar.value t text m) := by
  have hmap : ∀ {α β : Type} (x : Except ScalarFault α) (f : α → β),
      Ends (fun f => (∃ c, f = .complaint c) ∨ ∃ s, f = .scalar s) (fun _ => True)
        ((x.map f).mapError Fault.scalar) := by
    intro α β x f
    cases x with
    | ok a => trivial
    | error e => exact .inr ⟨e, rfl⟩
  cases t with
  | bool => exact hmap _ _
  | int => exact hmap _ _
  | float => exact hmap _ _
  | timestamp =>
    unfold Scalar.value
    cases Scalar.timestamp text with
    | ok a => trivial
    | error e => exact .inr ⟨e, rfl⟩
  | binary =>
    unfold Scalar.value
    cases Scalar.binary text with
    | ok a => trivial
    | error e => exact .inl ⟨_, rfl⟩
  | _ => trivial

variable [Bounds]

/-- **A leaf is made** of a scalar, or of what a tag that is written makes one. -/
theorem makes_leaf {t : Tag} (hseq : t ≠ .seq) (hmap : t ≠ .map) :
    Triple (Unmade stream) (fun m => (m.graph.node id).tag = t.text ∧ m.In stream g₀ n)
      (leaf id t) fun _ => Making.In stream g₀ n := by
  refine (looks_node id).bind fun nd => Triple.state fun m hm => ?_
  have hcases := (hm.2.2.alike.usual id).cases hm.2.1 hseq hmap
  rw [hm.1] at hcases
  have htext : Ends (Unmade stream) (fun text => stream.Tagged ∨ nd.content = .scalar text ∧
      (t = .str ∨ t = .null ∨ stream.Has (.scalar text true) ∧ t = Schema.tagOf text))
      (m.graph.textOf id) := by
    rcases hcases with htagged | ⟨text, hcontent, ht⟩
    · refine ((ends_textWithin m.graph _ id).widen ?_).mono fun _ _ => .inl htagged
      rintro f (⟨c, rfl⟩ | rfl)
      · exact .complaint c
      · exact .nesting (.inl htagged)
    · rw [textOf_scalar (hm.1 ▸ hcontent)]
      exact .inr ⟨hcontent, ht⟩
  refine (Triple.lift htext).bind fun text => Triple.with_fact (fun _ h => h.1) fun htext => ?_
  refine Triple.of_pre ?_ fun _ h => h.2.2.2
  have hvalue : Ends (Unmade stream) (fun _ => True) (Scalar.value t text nd.start) := by
    rcases htext with htagged | ⟨-, rfl | rfl | ⟨hhas, rfl⟩⟩
    · refine (ends_value t text nd.start).widen ?_
      rintro f (⟨c, rfl⟩ | ⟨s, rfl⟩)
      · exact .complaint c
      · exact .scalar (.inl htagged)
    · trivial
    · trivial
    · cases hv : Scalar.value (Schema.tagOf text) text nd.start with
      | ok v => trivial
      | error f =>
        rcases (ends_value (Schema.tagOf text) text nd.start).of_error hv with ⟨c, rfl⟩ | ⟨s, rfl⟩
        · exact .complaint c
        · exact .scalar (.inr ⟨text, _, hhas, hv⟩)
  extract_lets made
  have hmade : ∀ u, Makes stream g₀ n (made u) := fun _ =>
    (Triple.lift hvalue).bind fun v => Triple.of_pre (makes_setObject id _) fun _ h => h.2
  split
  · next hmapping =>
    refine (Triple.throw fun _ _ => .scalar ?_).bind hmade
    rcases htext with htagged | ⟨hcontent, -⟩
    · exact .inl htagged
    · rw [hcontent] at hmapping
      have hfalse : (t == Tag.timestamp && false) = true := hmapping
      rw [Bool.and_false] at hfalse
      cases hfalse
  · exact hmade ()

/-! ### Nodes -/

theorem makes_object (id : NodeId) : Makes stream g₀ n (object id) := by
  refine Triple.get.bind fun m => ?_
  split
  · next hnone =>
    refine Triple.of_pre (P := fun m => (m.objects.object? id).isNone = true ∧ m.In stream g₀ n)
      ?_ (by rintro s ⟨rfl, hs⟩; exact ⟨hnone, hs⟩)
    refine (looks_node id).bind fun nd => ?_
    split
    · exact Triple.throw fun _ _ => .complaint _
    · exact Triple.throw fun _ _ => .complaint _
    · exact Triple.throw fun _ _ => .complaint _
    · exact Triple.throw fun _ _ => .complaint _
    · next t _ _ _ ht =>
      have htext := Tag.text_of_ofText? ht
      split
      · next c hc =>
        refine Triple.of_pre makes_waiting ?_
        rintro s ⟨rfl, hnone, hs⟩
        exact ⟨⟨hs.size.trans hs.alike.size.symm ▸ lt_size_of_ofTag? ht hc, hnone⟩, hs⟩
      · next hc =>
        refine Triple.of_pre (makes_leaf ?_ ?_) ?_
        · rintro rfl
          cases hc
        · rintro rfl
          cases hc
        · rintro s ⟨rfl, -, hs⟩
          exact ⟨htext, hs⟩
  · exact Triple.pure fun _ h => h.2

/-! ## Entries -/

theorem makes_keyed (start : Mark) (kept entries : List Entry) :
    Makes stream g₀ n (keyed start kept entries) := by
  induction entries generalizing kept with
  | nil => exact makes_pure _
  | cons e entries ih =>
    obtain ⟨k, v⟩ := e
    refine (makes_object k).bind fun _ => Triple.state fun m hm => ?_
    extract_lets valued
    have hvalued : ∀ u, Makes stream g₀ n (valued u) := fun _ =>
      (makes_object v).bind fun _ => Triple.state fun m hm => ih _
    split
    · exact (looks_node k).bind fun _ => (Triple.throw fun _ _ => .complaint _).bind hvalued
    · exact hvalued ()

theorem makes_mappingEntries (id : NodeId) : Makes stream g₀ n (mappingEntries id) := by
  refine (looks_node id).bind fun nd => ?_
  split
  · next hmapping =>
    refine Triple.with_fact (p := (g₀.node id).content.isMapping = true) ?_ fun hid => ?_
    · rintro m ⟨rfl, hm⟩
      exact hm.alike.kinds id ▸ hmapping
    · refine Triple.of_pre ?_ fun _ h => h.2
      refine (makes_onGraph (Graph.merging_flatten hid)).bind fun _ => Triple.state fun m hm => ?_
      exact makes_keyed _ _ _
  · exact Triple.throw fun _ _ => .complaint _

theorem makes_pairEntries (activity : Activity) (id : NodeId) :
    Makes stream g₀ n (pairEntries activity id) := by
  refine (looks_node id).bind fun nd => Triple.of_pre ?_ fun _ h => h.2
  extract_lets refused
  split
  · refine Triple.mapM fun item _ => (looks_node item).bind fun i => Triple.of_pre ?_ fun _ h => h.2
    split
    · exact (makes_object _).bind fun _ => (makes_object _).bind fun _ => makes_pure _
    · exact Triple.throw fun _ _ => .complaint _
    · exact Triple.throw fun _ _ => .complaint _
  · exact Triple.throw fun _ _ => .complaint _

/-! ## Rounds -/

theorem makes_complete (id : NodeId) (c : Collection) : Makes stream g₀ n (complete id c) := by
  cases c with
  | list =>
    refine (looks_node id).bind fun nd => Triple.of_pre ?_ fun _ h => h.2
    split
    · exact (Triple.forM fun i _ => makes_object i).bind fun _ => makes_setObject _ _
    · exact Triple.throw fun _ _ => .complaint _
  | orderedMap => exact (makes_pairEntries _ id).bind fun _ => makes_setObject _ _
  | pairs => exact (makes_pairEntries _ id).bind fun _ => makes_setObject _ _
  | mapping => exact (makes_mappingEntries id).bind fun _ => makes_setObject _ _
  | set => exact (makes_mappingEntries id).bind fun _ => makes_setObject _ _

/-- **The rounds are enough**: in every round but the last a collection no
longer waits, and none waits twice. -/
theorem makes_rounds (budget : Nat) (hb : n < budget) :
    Triple (Unmade stream) (Making.In stream g₀ n) (rounds budget) fun _ _ => True := by
  induction budget generalizing n with
  | zero => exact absurd hb (Nat.not_lt_zero n)
  | succ budget ih =>
    refine Triple.get.bind fun m => ?_
    split
    · exact Triple.pure fun _ _ => trivial
    · next waiting hwaiting =>
      refine Triple.with_fact (p := 0 < n) ?_ fun hn => ?_
      · rintro s ⟨rfl, hs⟩
        have hroom := hs.room
        have hlength := List.length_pos_iff.2 hwaiting
        omega
      refine Triple.bind (Q := fun _ => Making.In stream g₀ (n - 1)) (Triple.modify ?_) fun _ => ?_
      · -- No collection waits any longer, and at least one did.
        rintro s ⟨rfl, hs⟩
        refine ⟨hs.alike, hs.size, ?_⟩
        have hroom := hs.room
        have hlength := List.length_pos_iff.2 hwaiting
        change 0 + m.objects.countP Option.isNone ≤ n - 1
        omega
      · refine (Triple.forM fun w _ => makes_complete w.1 w.2).bind fun _ => ih (by omega)

end Make

/-- **Objects that are not made** have a cause in the tokens. -/
theorem Objects.unmade_of_ofGraph [Bounds] {root : NodeId} (hg : ∀ i, (g.node i).Usual stream)
    {f : Fault} (h : Objects.ofGraph g root = .error f) : Unmade stream f := by
  have hstart : Making.In stream g g.size ⟨g, Array.replicate g.size none, []⟩ := by
    refine ⟨⟨rfl, fun _ => rfl, hg⟩, Array.size_replicate, ?_⟩
    have hcount : (Array.replicate g.size (none : Option Object)).countP Option.isNone ≤ _ :=
      Array.countP_le_size
    rw [Array.size_replicate] at hcount
    exact (Nat.zero_add _).trans_le hcount
  have hmade : Triple (Unmade stream) (Making.In stream g g.size) (do
      Make.object root
      Make.rounds (g.size + 1)) fun _ _ => True :=
    (Make.makes_object root).bind fun _ => Make.makes_rounds _ (Nat.lt_succ_self _)
  rcases Except.cases_of_bind_eq_error h with h | ⟨p, -, h⟩
  · exact (hmade _ hstart).of_error h
  · cases h

end DeliveryAudit.Yaml
