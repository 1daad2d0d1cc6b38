/-!
# Identifiers

Junctions and edges are numbered in the order they were added. The lanes of an edge are numbered
from the rightmost one, starting at 0.
-/
namespace RoadSketch

structure EdgeId where
  index : Nat
  deriving DecidableEq, Repr

structure JunctionId where
  index : Nat
  deriving DecidableEq, Repr

structure LaneId where
  edge : EdgeId
  index : Nat
  deriving DecidableEq, Repr

instance : ToString EdgeId := ⟨fun id => "Edge #" ++ toString id.index⟩

instance : ToString JunctionId := ⟨fun id => "Junction #" ++ toString id.index⟩

instance : ToString LaneId :=
  ⟨fun id => "Lane #" ++ toString id.edge.index ++ "/" ++ toString id.index⟩

/-- Lanes are ordered by their edge and then by their place on it. -/
def LaneId.before (a b : LaneId) : Bool :=
  a.edge.index < b.edge.index || (a.edge.index = b.edge.index && a.index < b.index)

end RoadSketch
