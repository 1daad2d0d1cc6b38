import RoadSketch.Polyline.Basic

/-!
# Road networks

Junctions, and edges from one junction to another, each with lanes side by side. Everything is named
by where it is stored.
-/
namespace RoadSketch

variable {α : Type} [Scalar α]

structure Lane (α : Type) where
  shape : Polyline α
  width : α
  deriving Repr

structure Edge (α : Type) where
  id : EdgeId
  source : JunctionId
  target : JunctionId
  /-- Rightmost first. -/
  lanes : List (Lane α)
  /-- The edge that goes back the way this one came, if there is any. -/
  turnaround : Option EdgeId
  deriving Repr

structure Junction (α : Type) where
  id : JunctionId
  shape : Polyline α
  deriving Repr

structure Network (α : Type) where
  junctions : List (Junction α)
  edges : List (Edge α)
  deriving Repr

instance : BEq (Lane α) := ⟨fun a b => a.shape == b.shape && a.width == b.width⟩

instance : BEq (Edge α) :=
  ⟨fun a b => a.id == b.id && a.source == b.source && a.target == b.target && a.lanes == b.lanes &&
    a.turnaround == b.turnaround⟩

instance : BEq (Junction α) := ⟨fun a b => a.id == b.id && a.shape == b.shape⟩

instance : BEq (Network α) := ⟨fun a b => a.junctions == b.junctions && a.edges == b.edges⟩

namespace Network

def empty : Network α := ⟨[], []⟩

def addJunction (network : Network α) (shape : Polyline α) : JunctionId × Network α :=
  let id : JunctionId := ⟨network.junctions.length⟩
  (id, { network with junctions := network.junctions ++ [⟨id, shape⟩] })

/-- Adds an edge, with its lanes from the rightmost one on, and names it. -/
def addEdge (network : Network α) (source target : JunctionId) (lanes : List (Lane α)) :
    EdgeId × Network α :=
  let id : EdgeId := ⟨network.edges.length⟩
  (id, { network with edges := network.edges ++ [⟨id, source, target, lanes, none⟩] })

def item {β : Type} (items : List β) (index : Nat) : Checked α β :=
  match items[index]? with
  | some found => .ok found
  | none => .error .missingItem

def edge (network : Network α) (id : EdgeId) : Checked α (Edge α) := item network.edges id.index

def junction (network : Network α) (id : JunctionId) : Checked α (Junction α) :=
  item network.junctions id.index

def lane (network : Network α) (id : LaneId) : Checked α (Lane α) := do
  item (← network.edge id.edge).lanes id.index

def changeEdge (network : Network α) (id : EdgeId) (change : Edge α → Edge α) :
    Checked α (Network α) := do
  let old ← network.edge id
  return { network with edges := network.edges.set id.index (change old) }

def setSource (network : Network α) (id : EdgeId) (source : JunctionId) : Checked α (Network α) :=
  network.changeEdge id fun edge => { edge with source := source }

def setTarget (network : Network α) (id : EdgeId) (target : JunctionId) : Checked α (Network α) :=
  network.changeEdge id fun edge => { edge with target := target }

/-- Says which edge goes back the way an edge came. -/
def setTurnaround (network : Network α) (id other : EdgeId) : Checked α (Network α) :=
  network.changeEdge id fun edge => { edge with turnaround := some other }

/-- The lanes of an edge, rightmost first. -/
def lanesOf (network : Network α) (id : EdgeId) : Checked α (List LaneId) := do
  return (List.range (← network.edge id).lanes.length).map fun index => ⟨id, index⟩

def laneCount (network : Network α) (id : EdgeId) : Checked α Nat :=
  return (← network.lanesOf id).length

def laneShape (network : Network α) (id : LaneId) : Checked α (Polyline α) :=
  return (← network.lane id).shape

def laneWidth (network : Network α) (id : LaneId) : Checked α α := return (← network.lane id).width

/-- The junction an edge ends at; none for an edge that is not there. -/
def target? (network : Network α) (id : EdgeId) : Option JunctionId :=
  network.edges[id.index]?.map (·.target)

def outgoing (network : Network α) (id : JunctionId) : List EdgeId :=
  (network.edges.filter (·.source == id)).map (·.id)

def junctionShape (network : Network α) (id : JunctionId) : Checked α (Polyline α) :=
  return (← network.junction id).shape

def turnaround? (network : Network α) (id : EdgeId) : Checked α (Option EdgeId) :=
  return (← network.edge id).turnaround

end Network

end RoadSketch
