import DeliveryAudit.Yaml.Merge
import DeliveryAudit.Yaml.Scalar.Meaning
/-!
# What nodes become

Every node of a document becomes at most one object, by its tag: a leaf
with a value, or a collection, whose parts are known by the numbers of
their nodes. A collection is empty at first and waits for its parts; the
collections that wait are completed in the order in which they came up,
and the first fault met ends it all. Only leaves can be keys.

`Objects.ofGraph` makes the objects that the root of a document needs.
-/

namespace DeliveryAudit.Yaml

/-- What a node becomes. `noNumber` marks a leaf whose text is the name of
what is no number: all keys of that name are one key, while any other real
that is no number is a key of its own. -/
inductive Object where
  | leaf (v : Value) (noNumber : Bool)
  | list (items : List NodeId)
  | pairs (items : List Entry)
  | mapping (entries : List Entry)
  | set (members : List NodeId)

/-- The collections that tags ask for. -/
inductive Collection where
  | list
  | orderedMap
  | pairs
  | mapping
  | set

/-- The collection that a tag asks for. -/
def Collection.ofTag? : Tag → Option Collection
  | .seq => some list
  | .omap => some orderedMap
  | .pairs => some pairs
  | .map => some mapping
  | .set => some set
  | _ => none

/-- A collection without parts. -/
def Collection.empty : Collection → Object
  | list => .list []
  | orderedMap | pairs => .pairs []
  | mapping => .mapping []
  | set => .set []

/-- The objects of nodes, by the numbers of the nodes. -/
abbrev Objects := Array (Option Object)

namespace Objects

/-- The object of a node. -/
def object? (os : Objects) (id : NodeId) : Option Object := os.getD id none

/-- Whether a node has become a leaf. -/
def isLeaf (os : Objects) (id : NodeId) : Bool :=
  match os.object? id with
  | some (.leaf _ _) => true
  | _ => false

/-- Whether two nodes are one key. -/
def sameKey (os : Objects) (k l : NodeId) : Bool :=
  k == l ||
    match os.object? k, os.object? l with
    | some (.leaf v noNumber), some (.leaf w noNumber') =>
      v.same w || (noNumber && noNumber')
    | _, _ => false

/-- Entries with the value of a key set: in its place if the key is
there, at the end otherwise. -/
def put (os : Objects) (key value : NodeId) : List Entry → List Entry
  | [] => [(key, value)]
  | (k, v) :: rest =>
    if os.sameKey k key then (k, value) :: rest else (k, v) :: os.put key value rest

end Objects

/-- A graph with the objects made so far, and the collections that wait
for their parts, the latest first. -/
structure Making where
  graph : Graph
  objects : Objects
  waiting : List (NodeId × Collection)

/-- An action that makes objects. -/
abbrev Make := StateT Making (Except Fault)

namespace Make

/-- An action on the graph alone. -/
def onGraph {α : Type} (action : Graph.Flattening α) : Make α :=
  fun ⟨graph, objects, waiting⟩ => do
    let (a, graph) ← action graph
    return (a, ⟨graph, objects, waiting⟩)

/-- The node with a number. -/
def node (id : NodeId) : Make Node := do
  return (← get).graph.node id

/-- A node becomes an object. -/
def setObject (id : NodeId) (o : Object) : Make Unit :=
  modify fun m => { m with objects := m.objects.setIfInBounds id (some o) }

variable [Bounds]

/-- A node becomes a leaf, by its tag. -/
def leaf (id : NodeId) (t : Tag) : Make Unit := do
  let n ← node id
  let text ← (← get).graph.textOf id
  -- A moment is looked for in the node itself, not in its default.
  if t == .timestamp && n.content.isMapping then
    throw (.scalar (.noText "list"))
  let v ← Scalar.value t text n.start
  setObject id (.leaf v (t == .float && Scalar.namesNoNumber text))

/-- A node gets its object, unless it has one. -/
def object (id : NodeId) : Make Unit := do
  if ((← get).objects.object? id).isNone then
    let n ← node id
    match Tag.ofText? n.tag with
    | none | some .merge | some .value | some .yaml =>
      throw (refuse none (.unknownTag n.tag) n.start)
    | some t =>
      match Collection.ofTag? t with
      | some c => do
        setObject id c.empty
        modify fun m => { m with waiting := (id, c) :: m.waiting }
      | none => leaf id t

/-- The entries of a mapping that starts at a place get their objects,
after the entries `kept`, each key once. -/
def keyed (start : Mark) (kept : List Entry) : List Entry → Make (List Entry)
  | [] => return kept
  | (k, v) :: rest => do
    object k
    if !(← get).objects.isLeaf k then
      throw (refuse (some (.mapping, start)) .unhashableKey (← node k).start)
    object v
    keyed start ((← get).objects.put k v kept) rest

/-- The entries of a node that has to be a mapping. -/
def mappingEntries (id : NodeId) : Make (List Entry) := do
  let n ← node id
  if n.content.isMapping then
    onGraph (Graph.flatten id)
    keyed n.start [] ((← get).graph.entries id)
  else
    throw (refuse none (.expectedNode "a mapping node" n.content.kindName) n.start)

/-- The entries of a node that has to be a sequence of mappings with one
entry each. -/
def pairEntries (activity : Activity) (id : NodeId) : Make (List Entry) := do
  let n ← node id
  let refused (problem : Problem) (m : Mark) : Fault :=
    refuse (some (activity, n.start)) problem m
  match n.content with
  | .sequence items =>
    items.mapM fun item => do
      let i ← node item
      match i.content with
      | .mapping [(k, v)] => do
        object k
        object v
        return (k, v)
      | .mapping entries => throw (refused (.itemCount entries.length) i.start)
      | content =>
        throw (refused (.expectedNode "a mapping of length 1" content.kindName) i.start)
  | content => throw (refused (.expectedNode "a sequence" content.kindName) n.start)

/-- A collection gets its parts. -/
def complete (id : NodeId) : Collection → Make Unit
  | .list => do
    let n ← node id
    match n.content with
    | .sequence items => do
      items.forM object
      setObject id (.list items)
    | content => throw (refuse none (.expectedNode "a sequence node" content.kindName) n.start)
  | .orderedMap => do setObject id (.pairs (← pairEntries .orderedMap id))
  | .pairs => do setObject id (.pairs (← pairEntries .pairs id))
  | .mapping => do setObject id (.mapping (← mappingEntries id))
  | .set => do setObject id (.set ((← mappingEntries id).map Prod.fst))

/-- The collections that wait are completed, and then those that wait
since then. Every round takes from the `budget`. -/
def rounds : Nat → Make Unit
  | 0 => throw .nesting
  | budget + 1 => do
    match (← get).waiting with
    | [] => return ()
    | waiting => do
      modify fun m => { m with waiting := [] }
      waiting.reverse.forM fun w => complete w.1 w.2
      rounds budget

end Make

/-- The objects that a node of a graph needs. Every round completes a
node, so that there are no more rounds than nodes. -/
def Objects.ofGraph [Bounds] (g : Graph) (root : NodeId) : Except Fault Objects := do
  let making : Making := ⟨g, Array.replicate g.size none, []⟩
  let action : Make Unit := do
    Make.object root
    Make.rounds (g.size + 1)
  let ((), m) ← action making
  return m.objects

end DeliveryAudit.Yaml
