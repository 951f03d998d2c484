import DeliveryAudit.Yaml.Object
/-!
# The value of a document

The objects of a document refer to one another by number, and may do so in
a circle. Unfolded from the root, a collection that is met inside itself
is not unfolded once more, but referred to; a collection with such a
reference in it is a knot.
-/

namespace DeliveryAudit.Yaml

namespace Objects

/-- A value, and the collections around it that are referred to in it. -/
structure Unfolded where
  value : Value
  refs : List NodeId

/-- The values that refer to no collection around them, by the numbers of
their nodes. Each is unfolded once. -/
abbrev Unfold := StateM (Array (Option Value))

/-- The collections that are referred to in several values. -/
def refsIn (parts : List Unfolded) : List NodeId :=
  (parts.flatMap Unfolded.refs).eraseDups

/-- The value of the collection of a node, made of values in which the
collections `refs` are referred to. -/
def tie (id : NodeId) (v : Value) (refs : List NodeId) : Unfold Unfolded := do
  if refs.isEmpty then
    modify fun values => values.setIfInBounds id (some v)
    return ⟨v, []⟩
  else
    return ⟨.knot id v, refs.filter (· != id)⟩

/-- The value of a node inside the collections `around`. `depth` more
collections may be around its parts. -/
def unfold (os : Objects) : Nat → List NodeId → NodeId → Unfold Unfolded
  | 0, _, _ => return ⟨.null, []⟩
  | depth + 1, around, id => do
    let parts (ids : List NodeId) : Unfold (List Unfolded) :=
      ids.mapM (os.unfold depth (id :: around))
    let pairs (entries : List Entry) : Unfold (List (Value × Value) × List NodeId) := do
      let keys ← parts (entries.map Prod.fst)
      let values ← parts (entries.map Prod.snd)
      return ((keys.map Unfolded.value).zip (values.map Unfolded.value), refsIn (keys ++ values))
    let known := (← get).getD id none
    match known, os.object? id with
    | some v, _ => return ⟨v, []⟩
    | none, none => return ⟨.null, []⟩
    | none, some (.leaf v _) => return ⟨v, []⟩
    | none, some (.list items) => do
      if around.contains id then return ⟨.again id false, [id]⟩
      let vs ← parts items
      tie id (.list (vs.map Unfolded.value)) (refsIn vs)
    | none, some (.pairs items) => do
      if around.contains id then return ⟨.again id false, [id]⟩
      let (es, refs) ← pairs items
      tie id (.list (es.map fun e => .pair e.1 e.2)) refs
    | none, some (.mapping entries) => do
      if around.contains id then return ⟨.again id true, [id]⟩
      let (es, refs) ← pairs entries
      tie id (.mapping es) refs
    | none, some (.set members) => do
      let vs ← parts members
      tie id (.set (vs.map Unfolded.value)) (refsIn vs)

/-- The value of a node. No more collections are around a part of it than
there are nodes. -/
def value (os : Objects) (root : NodeId) : Value :=
  ((os.unfold (os.size + 1) [] root).run (Array.replicate os.size none)).1.value

end Objects

end DeliveryAudit.Yaml
