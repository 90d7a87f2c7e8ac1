import ActorFacade.Yaml.Atom
import ActorFacade.Yaml.Node

/-! # Merging mappings

What stands under a merge key of a mapping becomes a part of the mapping: the entries of another
mapping, or those of some, of which the first counts most.  They come in front of the mapping's own
entries.  Merging changes the nodes, so it shows wherever the mapping is repeated, and a mapping
that is merged into itself has lost the merge key by then.

The sign for a default value is a text where it is a key of a mapping that was gone through.
-/

namespace ActorFacade.Yaml

-- The empty sum is the built-in zero.
attribute [local instance (high)] Zero.ofOfNat0

/-- The nodes of a document by their numbers. -/
abbrev Nodes := Array Node

namespace Nodes

/-- The node with a number. -/
def node (g : Nodes) (i : NodeRef) : Node := g.getD i Node.empty

/-- The entries of a mapping; other nodes have none. -/
def entriesOf (g : Nodes) (i : NodeRef) : NodePairs :=
  match g.node i with
  | .mapping _ entries => entries
  | _ => []

/-- Replaces the entries of a mapping. -/
def setEntries (g : Nodes) (i : NodeRef) (entries : NodePairs) : Nodes :=
  g.setIfInBounds i (.mapping (g.node i).kind entries)

/-- Whether a node is a mapping. -/
def isMapping (g : Nodes) (i : NodeRef) : Bool := g.node i matches .mapping ..

/-- Makes a text of the sign for a default value. -/
def settleSign (g : Nodes) (i : NodeRef) : Nodes :=
  if (g.node i).kind = .equals then g.setIfInBounds i ((g.node i).withKind .text) else g

/-- Takes the first merge key from some entries; the result are the node under it and the other
entries. -/
def takeMerge (g : Nodes) : NodePairs → Option (NodeRef × NodePairs)
  | [] => none
  | (k, v) :: entries =>
    if (g.node k).kind = .merge then some (v, entries)
    else (takeMerge g entries).map fun r ↦ (r.1, (k, v) :: r.2)

mutual
/-- Merges into a mapping what stands under its merge keys; the number bounds how many mappings are
merged into one another. -/
def merge : Nat → Nodes → NodeRef → Except Fault Nodes
  | 0, g, _ => .ok g
  | bound + 1, g, i => do
    let (g, merged) ← collect bound g i []
    let own := g.entriesOf i
    let g := own.foldl (fun g e ↦ g.settleSign e.1) g
    return if merged.isEmpty then g else g.setEntries i (merged ++ own)

/-- Takes the merge keys from a mapping, one after the other, and adds to `merged` what stands under
them. -/
def collect : Nat → Nodes → NodeRef → NodePairs → Except Fault (Nodes × NodePairs)
  | 0, g, _, merged => .ok (g, merged)
  | bound + 1, g, i, merged =>
    match g.takeMerge (g.entriesOf i) with
    | none => .ok (g, merged)
    | some (v, others) => do
      let g := g.setEntries i others
      match g.node v with
      | .mapping .. =>
        let g ← merge bound g v
        collect bound g i (merged ++ g.entriesOf v)
      | .sequence _ items =>
        let (g, found) ← items.foldlM (fun (g, found) item ↦ do
          if !g.isMapping item then refusal
          let g ← merge bound g item
          return (g, g.entriesOf item ++ found)) (g, [])
        collect bound g i (merged ++ found)
      | .scalar .. => refusal
end

/-- The number of merge keys among some nodes. -/
def mergeCount (g : Nodes) : Nat :=
  (g.toList.map fun n ↦ match n with
    | .mapping _ entries => entries.countP fun e ↦ (g.node e.1).kind = .merge
    | _ => 0).sum

/-- Merges into a mapping what stands under its merge keys.  Every step takes one of them away. -/
def flatten (g : Nodes) (i : NodeRef) : Except Fault Nodes :=
  g.merge (if (g.takeMerge (g.entriesOf i)).isSome then 2 * g.mergeCount + 2 else 1) i

end Nodes

end ActorFacade.Yaml
