import DeliveryAudit.Bounds
import DeliveryAudit.Yaml.Fault
import DeliveryAudit.Yaml.Scalar.Schema
/-!
# Nodes

A document is a graph of nodes: scalars, sequences and mappings, each with
a place and a tag. A node is known by its number, so that several places
may share it, and a collection may lie inside itself. `Graph.textOf` reads
a node as a scalar.
-/

namespace DeliveryAudit.Yaml

/-- The number of a node. -/
abbrev NodeId := Nat

/-- An entry of a mapping: a key and a value. -/
abbrev Entry := NodeId × NodeId

/-- What a node holds. -/
inductive Content where
  | scalar (t : Text)
  | sequence (items : List NodeId)
  | mapping (entries : List Entry)

/-- What a node is called by what it holds. -/
def Content.kindName : Content → String
  | scalar _ => "scalar"
  | sequence _ => "sequence"
  | mapping _ => "mapping"

/-- Whether a node is a mapping. -/
def Content.isMapping : Content → Bool
  | mapping _ => true
  | _ => false

/-- A node: where it starts, its tag in full, and what it holds. -/
structure Node where
  start : Mark
  tag : String
  content : Content

namespace Node

/-- The scalar that stands where nothing is written. -/
def empty (m : Mark) : Node := ⟨m, Tag.null.text, .scalar []⟩

instance : Inhabited Node := ⟨empty ⟨0, 0, 0⟩⟩

/-- Whether a node has a tag. -/
def has (n : Node) (t : Tag) : Bool := n.tag == t.text

end Node

/-- A complaint about a node or a token. -/
def refuse (context : Option (Activity × Mark)) (problem : Problem) (m : Mark) : Fault :=
  .complaint ⟨context.map Prod.fst, context.map Prod.snd, problem, m⟩

/-- The nodes of a document, by their numbers. -/
structure Graph where
  nodes : Array Node

namespace Graph

/-- The graph without nodes. -/
def empty : Graph := ⟨#[]⟩

/-- How many nodes there are. The next one gets this number. -/
def size (g : Graph) : Nat := g.nodes.size

/-- The node with a number. -/
def node (g : Graph) (id : NodeId) : Node := g.nodes.getD id default

/-- A graph with one more node. -/
def add (g : Graph) (n : Node) : Graph := ⟨g.nodes.push n⟩

/-- A graph in which a node holds something else. -/
def setContent (g : Graph) (id : NodeId) (content : Content) : Graph :=
  ⟨g.nodes.modify id fun n => { n with content := content }⟩

/-- A graph in which a node has another tag. -/
def setTag (g : Graph) (id : NodeId) (t : Tag) : Graph :=
  ⟨g.nodes.modify id fun n => { n with tag := t.text }⟩

/-- The entries of a mapping. -/
def entries (g : Graph) (id : NodeId) : List Entry :=
  match (g.node id).content with
  | .mapping entries => entries
  | _ => []

/-- The text of a node that has to be a scalar. A mapping stands for the
value of its default key. `depth` such mappings are seen through. -/
def textWithin (g : Graph) : Nat → NodeId → Except Fault Text
  | 0, _ => .error .nesting
  | depth + 1, id =>
    let n := g.node id
    let refused := refuse none (.expectedNode "a scalar node" n.content.kindName) n.start
    match n.content with
    | .scalar t => .ok t
    | .sequence _ => .error refused
    | .mapping entries =>
      match entries.find? fun e => (g.node e.1).has .value with
      | some e => g.textWithin depth e.2
      | none => .error refused

/-- The text of a node that has to be a scalar. -/
def textOf [Bounds] (g : Graph) (id : NodeId) : Except Fault Text :=
  g.textWithin (Bounds.chains + 1) id

end Graph

end DeliveryAudit.Yaml
