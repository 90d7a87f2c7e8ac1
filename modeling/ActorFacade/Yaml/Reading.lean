import ActorFacade.Value.Circular
import ActorFacade.Yaml.Merging

/-! # Values of documents

The value of a document is made level by level: the containers of one level are filled in their
order, and those within them make up the next level.  So of several faults the least deep one
counts, and of those the first.  The value of a node is made once, so that a node that lies within
itself has a value that does.

Scalars become atoms by their kinds.  Mappings become entries, where of equal keys the last one
counts; those that are merged into a mapping come first, so that its own keys count more.  Sets are
written as mappings, and a list of pairs as a sequence of mappings with one entry each.  A mapping
with the sign for a default value among its keys can stand for a scalar.

`reader` is what the program is run with.  What is known of loading suites is known of every reader.
-/

namespace ActorFacade.Yaml

/-! ## Scalars -/

/-- The text of a node that stands for a scalar: a scalar itself, or the default value of a mapping.
The number bounds how many mappings are default values of one another. -/
def Nodes.scalarText (g : Nodes) : Nat → NodeRef → Except Fault Text
  | 0, _ => .error .endless
  | bound + 1, i =>
    match g.node i with
    | .scalar _ t => .ok t
    | .sequence .. => refusal
    | .mapping _ entries =>
      match entries.find? fun e ↦ (g.node e.1).kind = .equals with
      | some (_, v) => scalarText g bound v
      | none => refusal

/-- The atom that a node stands for. -/
def Nodes.atomOf (g : Nodes) (i : NodeRef) : Except Fault Atom := do
  let k := (g.node i).kind
  let t ← g.scalarText (g.size + 1) i
  if k = .timestamp && g.isMapping i then throw .timestampMapping
  scalarValue k t

/-! ## Keys -/

/-- A key with the node that it was made from. -/
structure Key where
  /-- The key. -/
  atom : Atom
  /-- The node. -/
  origin : NodeRef
  /-- Whether the key is the value that is no number, in its usual spelling. -/
  isUsualNaN : Bool
deriving DecidableEq, Repr

/-- Whether two keys are the same.  Values that are no numbers are the same only if they come from
one node or are both spelled in the usual way. -/
def Key.same (k l : Key) : Bool :=
  if Value.isUniqueAtom k.atom then
    Value.isUniqueAtom l.atom && (k.origin == l.origin || (k.isUsualNaN && l.isUsualNaN))
  else k.atom.sameKey l.atom

/-- Stores a part: under a key that is there already, which stays as it is, or at the end. -/
def insertPart (k : Key) (p : Part) : List (Key × Part) → List (Key × Part)
  | [] => [(k, p)]
  | e :: es => if e.1.same k then (e.1, p) :: es else e :: insertPart k p es

/-! ## Containers -/

/-- What is known while values are made. -/
structure Progress where
  /-- The nodes, as merging has left them. -/
  nodes : Nodes
  /-- The values of nodes, as far as they were made. -/
  made : Array (Option Part)
  /-- The containers, empty until they are filled. -/
  containers : Array Container := #[]
  /-- The nodes of containers that are to be filled, with their numbers, the last one first. -/
  unfilled : List (NodeRef × Nat) := []

/-- A step of making values. -/
abbrev Maker := StateT Progress (Except Fault)

namespace Maker

/-- The container that a node of a kind makes, without its parts. -/
def emptyContainer (k : Kind) : Container :=
  match k with
  | .mapping => .dict []
  | .set => .set []
  | _ => .list []

/-- Adds a container. -/
def add (c : Container) : Maker Nat := do
  let number := (← get).containers.size
  modify fun s ↦ { s with containers := s.containers.push c }
  return number

/-- Fills a container. -/
def put (number : Nat) (c : Container) : Maker Unit :=
  modify fun s ↦ { s with containers := s.containers.setIfInBounds number c }

/-- The value of a node; a container is left to be filled. -/
def make (i : NodeRef) : Maker Part := do
  match (← get).made.getD i none with
  | some p => return p
  | none =>
    let k := ((← get).nodes.node i).kind
    let p ← if k.isCollection then do
        let number ← add (emptyContainer k)
        modify fun s ↦ { s with unfilled := (i, number) :: s.unfilled }
        pure (Part.container number)
      else do pure (Part.atom (← (← get).nodes.atomOf i))
    modify fun s ↦ { s with made := s.made.setIfInBounds i (some p) }
    return p

/-- The key that a node makes, which must not be a container. -/
def makeKey (i : NodeRef) : Maker Key := do
  match ← make i with
  | .atom a =>
    let nodes := (← get).nodes
    return ⟨a, i, (nodes.scalarText (nodes.size + 1) i).toOption.any isUsualNaN⟩
  | .container _ => throw (.defect .malformed)

/-- The entries of a mapping. -/
def makeEntries (i : NodeRef) : Maker (List (Key × Part)) := do
  let nodes ← (← get).nodes.flatten i
  modify fun s ↦ { s with nodes }
  (nodes.entriesOf i).foldlM (fun es e ↦ do
    let k ← makeKey e.1
    return insertPart k (← make e.2) es) []

/-- The pair that a mapping with one entry makes. -/
def makePair (i : NodeRef) : Maker Part := do
  match (← get).nodes.entriesOf i with
  | [(k, v)] =>
    let k ← make k
    let v ← make v
    return .container (← add (.tuple [k, v]))
  | _ => throw (.defect .malformed)

/-- Fills the container of a node. -/
def fill (i : NodeRef) (number : Nat) : Maker Unit := do
  match (← get).nodes.node i with
  | .sequence .sequence items => put number (.list (← items.mapM make))
  | .sequence .pairs items => put number (.list (← items.mapM makePair))
  | .mapping .mapping _ =>
    put number (.dict ((← makeEntries i).map fun e ↦ (e.1.atom, e.2)))
  | .mapping .set _ => put number (.set ((← makeEntries i).map fun e ↦ e.1.atom))
  | _ => throw (.defect .malformed)

/-- Fills all containers, level by level; the number bounds the levels. -/
def fillLevels : Nat → Maker Unit
  | 0 => return ()
  | bound + 1 => do
    match (← get).unfilled with
    | [] => return ()
    | unfilled =>
      modify fun s ↦ { s with unfilled := [] }
      unfilled.reverse.forM fun u ↦ fill u.1 u.2
      fillLevels bound

end Maker

/-! ## Documents -/

/-- The value of a document. -/
def Document.value (d : Document) : Except Fault Circular := do
  let maker : Maker Part := do
    let root ← Maker.make d.root
    Maker.fillLevels (d.nodes.size + 1)
    return root
  let (root, s) ← maker.run { nodes := d.nodes, made := Array.replicate d.nodes.size none }
  return ⟨s.containers, root⟩

/-- The value of a text with one document; an empty one has the null value. -/
def read (t : Text) : Except Fault Circular := do
  match ← (Document.ofText? t).mapError .defect with
  | some d => d.value
  | none => return .ofAtom .null

/-- What reads documents in this way.  Each fault is of some kind, except for documents that do not
follow the format. -/
def reader (kind : Fault → Text) : DocumentReader := fun t ↦
  (read t).mapError fun
    | .defect .malformed => .malformed (Fault.defect .malformed).message
    | fault => .other (kind fault) fault.message

end ActorFacade.Yaml
