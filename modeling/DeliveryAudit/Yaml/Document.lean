import DeliveryAudit.Yaml.Token.Stream
import DeliveryAudit.Yaml.Unfolding
/-!
# Documents

The tokens of a text are read as one document: a graph of nodes with a
root, or nothing. `read` gives the value of the bytes of a file.
-/

namespace DeliveryAudit.Yaml

/-- The tokens still to be read, the fault after them, the nodes and the
anchors met so far, and what the handles of tags stand for. -/
structure Reading where
  tokens : List Token
  fault : Option Fault
  graph : Graph
  anchors : List (String × NodeId)
  handles : List (String × String)

/-- An action that reads tokens. -/
abbrev Read := StateT Reading (Except Fault)

namespace Read

/-- The handles that every document knows. -/
def commonHandles : List (String × String) := [("!", "!"), ("!!", Tag.stem)]

/-- The next token. -/
def peek : Read Token := fun r =>
  match r.tokens, r.fault with
  | t :: _, _ => .ok (t, r)
  | [], some f => .error f
  | [], none => .ok (⟨.streamEnd, ⟨0, 0, 0⟩, ⟨0, 0, 0⟩⟩, r)

/-- The kind of the next token. -/
def kind : Read Token.Kind := do
  return (← peek).kind

/-- The next token, which is then passed. -/
def take : Read Token := do
  let t ← peek
  modify fun r => { r with tokens := r.tokens.tail }
  return t

/-- A complaint at a place. -/
def complain {α : Type} (context : Option (Activity × Mark)) (problem : Problem) (m : Mark) :
    Read α :=
  throw (refuse context problem m)

/-- A complaint about the next token. -/
def unexpected {α : Type} (activity : Activity) (since : Mark) (problem : String → Problem) :
    Read α := do
  let t ← peek
  complain (some (activity, since)) (problem t.kind.name) t.first

/-- The anchor and the tag in front of a node. -/
structure Properties where
  start : Option Mark
  anchor : Option String
  tag : Option (Option String × String × Mark)
  last : Mark

/-- The properties in front of a node: an anchor and a tag, in either
order. -/
def properties : Read Properties := do
  let t ← peek
  match t.kind with
  | .anchor name => do
    let _ ← take
    let u ← peek
    match u.kind with
    | .tag handle suffix => do
      let _ ← take
      return ⟨some t.first, some name, some (handle, suffix, u.first), u.last⟩
    | _ => return ⟨some t.first, some name, none, t.last⟩
  | .tag handle suffix => do
    let _ ← take
    let u ← peek
    match u.kind with
    | .anchor name => do
      let _ ← take
      return ⟨some t.first, some name, some (handle, suffix, t.first), u.last⟩
    | _ => return ⟨some t.first, none, some (handle, suffix, t.first), t.last⟩
  | _ => return ⟨none, none, none, t.first⟩

/-- The tag of a node, in full. -/
def fullTag (p : Properties) : Read (Option String) :=
  match p.tag with
  | none => return none
  | some (none, suffix, _) => return some suffix
  | some (some handle, suffix, m) => do
    match (← get).handles.lookup handle with
    | some stem => return some (stem ++ suffix)
    | none => complain (p.start.map fun s => (.node, s)) (.undefinedHandle handle) m

/-- A new node. -/
def add (n : Node) : Read NodeId := do
  let id := (← get).graph.size
  modify fun r => { r with graph := r.graph.add n }
  return id

/-- The scalar that stands at a place where nothing is written. -/
def empty (m : Mark) : Read NodeId := add (Node.empty m)

/-- The anchor of a node that starts at a place has to be new. -/
def checkAnchor (anchor : Option String) (start : Mark) : Read Unit := do
  match anchor with
  | none => return ()
  | some name =>
    match (← get).anchors.lookup name with
    | none => return ()
    | some id =>
      complain (some (.firstOccurrence name, ((← get).graph.node id).start))
        .secondOccurrence start

/-- What an anchor names from now on. -/
def setAnchor (anchor : Option String) (id : NodeId) : Read Unit :=
  match anchor with
  | none => return ()
  | some name => modify fun r => { r with anchors := (name, id) :: r.anchors }

/-- The tag of a scalar. It follows from the form of a plain scalar that
has none. -/
def scalarTag (tag : Option String) (plain : Bool) (t : Text) : String :=
  match tag with
  | none => if plain then (Schema.tagOf t).text else Tag.str.text
  | some tag => if tag == "!" then (Schema.tagOf t).text else tag

/-- The tag of a collection. -/
def collectionTag (tag : Option String) (usual : Tag) : String :=
  match tag with
  | none => usual.text
  | some tag => if tag == "!" then usual.text else tag

/-- A scalar that starts at a place. -/
def scalar (anchor : Option String) (start : Mark) (tag : String) (t : Text) : Read NodeId := do
  checkAnchor anchor start
  let id ← add ⟨start, tag, .scalar t⟩
  setAnchor anchor id
  return id

/-- A collection that starts at a place, whose parts are read by an
action. Its anchor names it already while they are read. -/
def collection (anchor : Option String) (start : Mark) (tag : String) (empty : Content)
    (parts : Read Content) : Read NodeId := do
  checkAnchor anchor start
  let id ← add ⟨start, tag, empty⟩
  setAnchor anchor id
  let content ← parts
  modify fun r => { r with graph := r.graph.setContent id content }
  return id

mutual

/-- A node. Block collections are read when `block` is set, and sequences
that are not indented when `loose` is. `depth` more collections may be
nested; every call takes from the `budget`. -/
def node (depth : Nat) (block loose : Bool) : Nat → Read NodeId
  | 0 => throw .nesting
  | budget + 1 => do
    let t ← peek
    if let .reference name := t.kind then
      let _ ← take
      match (← get).anchors.lookup name with
      | some id => return id
      | none => complain none (.undefinedAlias name) t.first
    else
      let p ← properties
      let tag ← fullTag p
      let t ← peek
      let start := p.start.getD t.first
      let sequence (parts : Read (List NodeId)) : Read NodeId :=
        collection p.anchor start (collectionTag tag .seq) (.sequence [])
          (return .sequence (← parts))
      let mapping (parts : Read (List Entry)) : Read NodeId :=
        collection p.anchor start (collectionTag tag .map) (.mapping [])
          (return .mapping (← parts))
      match t.kind, depth with
      | .scalar content plain, _ => do
        let _ ← take
        scalar p.anchor start (scalarTag tag plain content) content
      | .flowSequenceStart, depth + 1 => sequence do
        let _ ← take
        flowSequence depth t.first true [] budget
      | .flowMappingStart, depth + 1 => mapping do
        let _ ← take
        flowMapping depth t.first true [] budget
      | .flowSequenceStart, 0 | .flowMappingStart, 0 => throw .nesting
      | kind, depth =>
        match kind, block, loose, depth with
        | .blockEntry, _, true, depth + 1 => sequence (looseSequence depth [] budget)
        | .blockSequenceStart, true, _, depth + 1 => sequence do
          let _ ← take
          blockSequence depth t.first [] budget
        | .blockMappingStart, true, _, depth + 1 => mapping do
          let _ ← take
          blockMapping depth t.first [] budget
        | .blockEntry, _, true, 0
        | .blockSequenceStart, true, _, 0
        | .blockMappingStart, true, _, 0 =>
          throw .nesting
        | _, _, _, _ =>
          -- An anchor or a tag may stand for an empty scalar.
          if p.anchor.isSome || tag.isSome then
            scalar p.anchor start (scalarTag tag true []) []
          else
            complain (some (if block then .blockNode else .flowNode, start))
              (.expectedToken "the node content" kind.name) t.first
termination_by structural budget => budget

/-- The entries of a block sequence that starts at a place, after those
before, latest first. -/
def blockSequence (depth : Nat) (since : Mark) (seen : List NodeId) : Nat → Read (List NodeId)
  | 0 => throw .nesting
  | budget + 1 => do
    match ← kind with
    | .blockEntry => do
      let dash ← take
      let n ← match ← kind with
        | .blockEntry | .blockEnd => empty dash.last
        | _ => node depth true false budget
      blockSequence depth since (n :: seen) budget
    | .blockEnd => do
      let _ ← take
      return seen.reverse
    | _ => unexpected .blockCollection since (.expectedToken "<block end>")
termination_by structural budget => budget

/-- The entries of a block sequence that is not indented. -/
def looseSequence (depth : Nat) (seen : List NodeId) : Nat → Read (List NodeId)
  | 0 => throw .nesting
  | budget + 1 => do
    match ← kind with
    | .blockEntry => do
      let dash ← take
      let n ← match ← kind with
        | .blockEntry | .key | .value | .blockEnd => empty dash.last
        | _ => node depth true false budget
      looseSequence depth (n :: seen) budget
    | _ => return seen.reverse
termination_by structural budget => budget

/-- The entries of a block mapping that starts at a place. -/
def blockMapping (depth : Nat) (since : Mark) (seen : List Entry) :
    Nat → Read (List Entry)
  | 0 => throw .nesting
  | budget + 1 => do
    match ← kind with
    | .key => do
      let mark ← take
      let k ← match ← kind with
        | .key | .value | .blockEnd => empty mark.last
        | _ => node depth true true budget
      let v ← match ← kind with
        | .value => do
          let colon ← take
          match ← kind with
          | .key | .value | .blockEnd => empty colon.last
          | _ => node depth true true budget
        | _ => do
          let t ← peek
          empty t.first
      blockMapping depth since ((k, v) :: seen) budget
    | .blockEnd => do
      let _ ← take
      return seen.reverse
    | _ => unexpected .blockMapping since (.expectedToken "<block end>")
termination_by structural budget => budget

/-- The value in a flow mapping or sequence, when a colon is next. -/
def flowValue (depth : Nat) (inMapping : Bool) : Nat → Read NodeId
  | 0 => throw .nesting
  | budget + 1 => do
    match ← kind with
    | .value => do
      let colon ← take
      match ← kind, inMapping with
      | .flowEntry, _ | .flowSequenceEnd, false | .flowMappingEnd, true =>
        empty colon.last
      | _, _ => node depth false false budget
    | _ => do
      let t ← peek
      empty t.first
termination_by structural budget => budget

/-- The entries of a flow sequence that starts at a place. -/
def flowSequence (depth : Nat) (since : Mark) (first : Bool) (seen : List NodeId) :
    Nat → Read (List NodeId)
  | 0 => throw .nesting
  | budget + 1 => do
    match first, ← kind with
    | _, .flowSequenceEnd => do
      let _ ← take
      return seen.reverse
    | false, .flowEntry => do
      let _ ← take
      flowSequenceEntry depth since seen budget
    | true, _ => flowSequenceEntry depth since seen budget
    | false, _ => unexpected .flowSequence since (.expectedEntry "',' or ']'")
termination_by structural budget => budget

/-- An entry of a flow sequence, which may be a mapping of one entry, and
those after it. -/
def flowSequenceEntry (depth : Nat) (since : Mark) (seen : List NodeId) : Nat → Read (List NodeId)
  | 0 => throw .nesting
  | budget + 1 => do
    match ← kind with
    | .flowSequenceEnd => do
      let _ ← take
      return seen.reverse
    | .key => do
      -- A key in a sequence makes a mapping with this entry only.
      let mark ← take
      let k ← match ← kind with
        | .value | .flowEntry | .flowSequenceEnd => empty mark.last
        | _ => node (depth - 1) false false budget
      let v ← flowValue (depth - 1) false budget
      let n ← add ⟨mark.first, Tag.map.text, .mapping [(k, v)]⟩
      flowSequence depth since false (n :: seen) budget
    | _ => do
      let n ← node depth false false budget
      flowSequence depth since false (n :: seen) budget
termination_by structural budget => budget

/-- The entries of a flow mapping that starts at a place. -/
def flowMapping (depth : Nat) (since : Mark) (first : Bool) (seen : List Entry) :
    Nat → Read (List Entry)
  | 0 => throw .nesting
  | budget + 1 => do
    match first, ← kind with
    | _, .flowMappingEnd => do
      let _ ← take
      return seen.reverse
    | false, .flowEntry => do
      let _ ← take
      flowMappingEntry depth since seen budget
    | true, _ => flowMappingEntry depth since seen budget
    | false, _ => unexpected .flowMapping since (.expectedEntry "',' or '\x7d'")
termination_by structural budget => budget

/-- An entry of a flow mapping, and those after it. -/
def flowMappingEntry (depth : Nat) (since : Mark) (seen : List Entry) :
    Nat → Read (List Entry)
  | 0 => throw .nesting
  | budget + 1 => do
    match ← kind with
    | .flowMappingEnd => do
      let _ ← take
      return seen.reverse
    | .key => do
      let mark ← take
      let k ← match ← kind with
        | .value | .flowEntry | .flowMappingEnd => empty mark.last
        | _ => node depth false false budget
      let v ← flowValue depth true budget
      flowMapping depth since false ((k, v) :: seen) budget
    | _ => do
      let k ← node depth false false budget
      let t ← peek
      let v ← empty t.first
      flowMapping depth since false ((k, v) :: seen) budget
termination_by structural budget => budget

end

/-- The directives at the head of a document. -/
def directives (version : Bool) (handles : List (String × String)) :
    List Token → Read (List (String × String))
  | ⟨.directive d, first, _⟩ :: rest => do
    let _ ← take
    match d with
    | .version major _ => do
      if version then complain none .duplicateVersion first
      if major != 1 then complain none .incompatibleVersion first
      directives true handles rest
    | .tag handle stem => do
      if (handles.lookup handle).isSome then complain none (.duplicateHandle handle) first
      directives version ((handle, stem) :: handles) rest
    | .other => directives version handles rest
  | [] => do
    let _ ← peek
    return handles
  | _ => return handles

/-- The tokens that mark the end of a document are passed. -/
def skipDocumentEnds : List Token → Read Unit
  | ⟨.documentEnd, _, _⟩ :: rest => do
    let _ ← take
    skipDocumentEnds rest
  | _ => do
    let _ ← peek

/-- The head of a document with its mark; false at the end of the
stream. -/
def documentStart : Read Bool := do
  skipDocumentEnds (← get).tokens
  match ← kind with
  | .streamEnd => return false
  | _ => do
    let handles ← directives false [] (← get).tokens
    let t ← peek
    match t.kind with
    | .documentStart => do
      let _ ← take
      modify fun r => { r with handles := handles ++ commonHandles }
      return true
    | kind => complain none (.expectedToken "'<document start>'" kind.name) t.first

variable [Bounds]

/-- The node of a document after its mark. -/
def documentContent (budget : Nat) : Read NodeId := do
  let t ← peek
  match t.kind with
  | .directive _ | .documentStart | .documentEnd | .streamEnd => empty t.first
  | _ => node Bounds.collections true false budget

/-- The root of the one document of a stream. -/
def document (budget : Nat) : Read (Option NodeId) := do
  let _ ← take
  let root ← match ← kind with
    | .directive _ | .documentStart | .streamEnd => do
      if ← documentStart then some <$> documentContent budget else pure none
    | _ => do
      modify fun r => { r with handles := commonHandles }
      some <$> node Bounds.collections true false budget
  match root with
  | none => return none
  | some root => do
    if let .documentEnd ← kind then
      let _ ← take
    skipDocumentEnds (← get).tokens
    let t ← peek
    if ← documentStart then
      complain (some (.singleDocument, ((← get).graph.node root).start)) .anotherDocument t.first
    else
      return some root

end Read

/-- The value of the document that a file of these bytes holds: nothing,
for a file without one. -/
def read [Bounds] (bytes : List UInt8) : Except Fault Value := do
  let stream := TokenStream.ofSource (Source.ofBytes bytes)
  let reading : Reading := ⟨stream.tokens, stream.fault, .empty, [], Read.commonHandles⟩
  let (root, reading) ← Read.document (4 * stream.tokens.length + 16) reading
  match root with
  | none => return .null
  | some root =>
    let objects ← Objects.ofGraph reading.graph root
    return objects.value root

end DeliveryAudit.Yaml
