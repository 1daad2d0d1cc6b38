import RoadSketch.Network.Basic

/-!
# Valid networks

In a valid network everything is stored where its name says, and all names lead somewhere.
-/
namespace RoadSketch

variable {α : Type}

inductive NetworkDefect where
  | misplacedJunction (id : JunctionId) (index : Nat)
  | misplacedEdge (id : EdgeId) (index : Nat)
  | missingJunction (id : EdgeId) (junction : JunctionId)
  | missingTurnaround (id other : EdgeId)
  deriving DecidableEq, Repr

def NetworkDefect.message : NetworkDefect → String
  | .misplacedJunction id index => toString id ++ " is stored at index " ++ toString index
  | .misplacedEdge id index => toString id ++ " is stored at index " ++ toString index
  | .missingJunction id junction => toString id ++ " refers to missing " ++ toString junction
  | .missingTurnaround id other => toString id ++ " turns around onto missing " ++ toString other

namespace Network

/-- Everything is stored under its name, and edges refer to junctions and edges that are there. -/
structure Valid (network : Network α) : Prop where
  junction_index : ∀ (i : Nat) (j : Junction α), network.junctions[i]? = some j → j.id.index = i
  edge_index : ∀ (i : Nat) (e : Edge α), network.edges[i]? = some e → e.id.index = i
  source_lt : ∀ e ∈ network.edges, e.source.index < network.junctions.length
  target_lt : ∀ e ∈ network.edges, e.target.index < network.junctions.length
  turnaround_lt : ∀ e ∈ network.edges, ∀ other, e.turnaround = some other →
    other.index < network.edges.length

def junctionDefect? (junction : Junction α) (index : Nat) : Option NetworkDefect :=
  if junction.id.index = index then none else some (.misplacedJunction junction.id index)

def edgeDefect? (network : Network α) (edge : Edge α) (index : Nat) : Option NetworkDefect :=
  if edge.id.index ≠ index then some (.misplacedEdge edge.id index)
  else if network.junctions.length ≤ edge.source.index then
    some (.missingJunction edge.id edge.source)
  else if network.junctions.length ≤ edge.target.index then
    some (.missingJunction edge.id edge.target)
  else match edge.turnaround with
    | some other =>
      if network.edges.length ≤ other.index then some (.missingTurnaround edge.id other) else none
    | none => none

/-- The first thing that is wrong with a network. -/
def defect? (network : Network α) : Option NetworkDefect :=
  (network.junctions.zipIdx.findSome? fun (junction, index) => junctionDefect? junction index).or
    (network.edges.zipIdx.findSome? fun (edge, index) => network.edgeDefect? edge index)

end Network

end RoadSketch
