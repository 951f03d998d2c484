import DeliveryAudit.Yaml.Node
/-!
# Merged entries

A mapping may take over the entries of others: under the merge key stands
a mapping, or a sequence of mappings, of which the last counts most
generally and the first most specially. `Graph.flatten` puts the entries
taken over in front of the mapping's own, where own entries prevail over
them later on. A mapping may even take over entries from a mapping around
it; it then takes those that the other has left at that time.

A default key that is met in a mapping becomes a plain text.
-/

namespace DeliveryAudit.Yaml

namespace Graph

/-- A step of taking over the entries that merge keys name: it changes the graph, or faults. -/
abbrev Flattening := StateT Graph (Except Fault)

/-- The node under the first merge key among entries, and the other
entries. -/
def splitMerge? (g : Graph) : List Entry → Option (NodeId × List Entry)
  | [] => none
  | (k, v) :: rest =>
    if (g.node k).has .merge then some (v, rest)
    else (g.splitMerge? rest).map fun (source, others) => (source, (k, v) :: others)

/-- A graph in which no key of a mapping is the default key. -/
def nameDefaults (g : Graph) (id : NodeId) : Graph :=
  (g.entries id).foldl
    (fun g e => if (g.node e.1).has .value then g.setTag e.1 .str else g) g

/-- The entries that a node gives to the mapping at a place: those of a
mapping, or of all mappings of a sequence, the last one first. They are
flattened before. -/
def entriesGiven (flatten : NodeId → Flattening Unit) (target : Mark) (source : NodeId) :
    Flattening (List Entry) := do
  match ((← get).node source).content with
  | .mapping _ => do
    flatten source
    return (← get).entries source
  | .sequence items => do
    let parts ← items.mapM fun item => do
      let n := (← get).node item
      if n.content.isMapping then
        flatten item
        return (← get).entries item
      else
        throw (refuse (some (.mapping, target))
          (.expectedNode "a mapping for merging" n.content.kindName) n.start)
    return parts.reverse.flatten
  | content =>
    throw (refuse (some (.mapping, target))
      (.expectedNode "a mapping or list of mappings for merging" content.kindName)
      ((← get).node source).start)

/-- A mapping takes over what stands under its merge keys, one after the
other, after the entries `taken` already. Every key takes from the
`budget`. -/
def takeOver (flatten : NodeId → Flattening Unit) (id : NodeId) (taken : List Entry) :
    Nat → Flattening Unit
  | 0 => throw .nesting
  | budget + 1 => do
    let start := ((← get).node id).start
    match (← get).splitMerge? ((← get).entries id) with
    | none =>
      modify fun g => (g.setContent id (.mapping (taken ++ g.entries id))).nameDefaults id
    | some (source, others) => do
      modify fun g => g.setContent id (.mapping others)
      let given ← entriesGiven flatten start source
      takeOver flatten id (taken ++ given) budget

/-- A mapping takes over the entries under its merge keys. `depth` more
mappings may take over from one another on the way. -/
def flattenWithin : Nat → NodeId → Flattening Unit
  | 0, _ => throw .nesting
  | depth + 1, id => do
    let count := ((← get).entries id).length
    takeOver (flattenWithin depth) id [] (count + 1)

/-- A mapping takes over the entries under its merge keys. -/
def flatten [Bounds] (id : NodeId) : Flattening Unit := flattenWithin (Bounds.chains + 1) id

end Graph

end DeliveryAudit.Yaml
