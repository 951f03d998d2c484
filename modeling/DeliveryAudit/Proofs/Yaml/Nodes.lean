import DeliveryAudit.Proofs.Yaml.Scanning
import DeliveryAudit.Yaml.Document
/-!
# Nodes and their tags

How deep collections nest shows in their tokens (`deepest`), and so do the tags
of nodes: unless tags are written, every node has the one that its form asks
for (`Node.Usual`).
-/

namespace DeliveryAudit.Yaml

variable {stream : TokenStream} {g g' : Graph} {k : Token.Kind} {L D : Nat}

/-! ## Tokens -/

/-- Whether a token of this kind is there. -/
def TokenStream.Has (stream : TokenStream) (k : Token.Kind) : Prop :=
  ∃ t ∈ stream.tokens, t.kind = k

/-- Whether a tag is written. -/
def TokenStream.Tagged (stream : TokenStream) : Prop :=
  ∃ handle suffix, stream.Has (.tag handle suffix)

/-- How deep collections nest before a token of this kind, when they nest so
deep after it. -/
def Token.Kind.depthBefore (k : Token.Kind) (depth : Nat) : Nat :=
  match k with
  | blockSequenceStart | blockMappingStart | flowSequenceStart | flowMappingStart => depth + 1
  | blockEnd | flowSequenceEnd | flowMappingEnd => depth - 1
  | _ => depth

/-- **How deep collections nest** in tokens. -/
def deepest : List Token → Nat
  | [] => 0
  | t :: ts => t.kind.depthBefore (deepest ts)

/-- How deep collections nest at most after a token of this kind, when they
nest so deep before it. -/
def Token.Kind.depthAfter (k : Token.Kind) (depth : Nat) : Nat :=
  match k with
  | blockSequenceStart | blockMappingStart | flowSequenceStart | flowMappingStart => depth - 1
  | blockEnd | flowSequenceEnd | flowMappingEnd => depth + 1
  | _ => depth

/-- Tokens that are no more than `L`, and nest no deeper than `D`. -/
def Within (L D : Nat) (ts : List Token) : Prop := ts.length ≤ L ∧ deepest ts ≤ D

/-- Tokens of which the next is of this kind. After the last one, the stream
has ended. -/
def Next (k : Token.Kind) (T : List Token → Prop) (ts : List Token) : Prop :=
  T ts ∧ (ts = [] ∧ k = .streamEnd ∨ ∃ t rest, ts = t :: rest ∧ t.kind = k)

theorem Within.tail {ts : List Token} (h : Next k (Within L D) ts) :
    Within (L - 1) (k.depthAfter D) ts.tail := by
  obtain ⟨⟨hlength, hdepth⟩, ⟨rfl, rfl⟩ | ⟨t, rest, rfl, rfl⟩⟩ := h
  · exact ⟨Nat.zero_le _, Nat.zero_le _⟩
  · refine ⟨Nat.le_sub_one_of_lt hlength, ?_⟩
    rw [deepest] at hdepth
    unfold Token.Kind.depthBefore at hdepth
    unfold Token.Kind.depthAfter
    cases htoken : t.kind with
    | _ =>
      simp only [htoken] at hdepth ⊢
      change deepest rest ≤ _
      omega

/-! ## Nodes -/

/-- **A node with the usual tag**, which its form asks for. A tag that is
written may be any. -/
def Node.Usual (stream : TokenStream) (n : Node) : Prop :=
  stream.Tagged ∨ match n.content with
    | .scalar t => n.tag = Tag.str.text ∨ n.tag = Tag.null.text ∨
      (stream.Has (.scalar t true) ∧ n.tag = (Schema.tagOf t).text)
    | .sequence _ => n.tag = Tag.seq.text
    | .mapping _ => n.tag = Tag.map.text

theorem Node.usual_empty (m : Mark) : (Node.empty m).Usual stream := .inr (.inr (.inl rfl))

/-- A graph with more nodes, of which the first have kept their tags. -/
def Graph.Grows (g g' : Graph) : Prop :=
  g.size ≤ g'.size ∧ ∀ i, i < g.size → (g'.node i).tag = (g.node i).tag

theorem Graph.Grows.refl (g : Graph) : g.Grows g := ⟨Nat.le_refl _, fun _ _ => rfl⟩

theorem Graph.Grows.trans {g'' : Graph} (h : g.Grows g') (h' : g'.Grows g'') : g.Grows g'' :=
  ⟨Nat.le_trans h.1 h'.1, fun i hi =>
    (h'.2 i (Nat.lt_of_lt_of_le hi h.1)).trans (h.2 i hi)⟩

theorem Graph.node_add (g : Graph) (n : Node) (i : NodeId) :
    (g.add n).node i = if i = g.size then n else g.node i := by
  simp only [Graph.node, Graph.add, Graph.size, Array.getD_eq_getD_getElem?, Array.getElem?_push]
  split
  · rfl
  · rfl

theorem Graph.size_add (g : Graph) (n : Node) : (g.add n).size = g.size + 1 := Array.size_push _

theorem Graph.node_setContent (g : Graph) (id i : NodeId) (content : Content) :
    (g.setContent id content).node i =
      if i = id ∧ i < g.size then { g.node i with content := content } else g.node i := by
  simp only [Graph.node, Graph.setContent, Graph.size, Array.getD_eq_getD_getElem?,
    Array.getElem?_modify]
  by_cases hi : i < g.nodes.size
  · by_cases hid : id = i
    · subst hid
      simp [hi]
    · simp [hid, Ne.symm hid]
  · simp [hi]

theorem Graph.size_setContent (g : Graph) (id : NodeId) (content : Content) :
    (g.setContent id content).size = g.size := Array.size_modify

theorem Graph.grows_add (g : Graph) (n : Node) : g.Grows (g.add n) := by
  refine ⟨by rw [Graph.size_add]; exact Nat.le_succ _, fun i hi => ?_⟩
  rw [Graph.node_add, if_neg (Nat.ne_of_lt hi)]

theorem Graph.grows_setContent (g : Graph) (id : NodeId) (content : Content) :
    g.Grows (g.setContent id content) := by
  refine ⟨Nat.le_of_eq (Graph.size_setContent g id content).symm, fun i _ => ?_⟩
  rw [Graph.node_setContent]
  split
  · rfl
  · rfl

end DeliveryAudit.Yaml
