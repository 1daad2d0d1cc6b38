import RoadSketch.Network.Basic
import RoadSketch.Network.Curve
import RoadSketch.Polyline.Area
import RoadSketch.Ribbon.Basic
import RoadSketch.Warning

/-!
# Connections

From a lane, traffic can go on to every lane that leaves the next junction. Through small junctions
the connections are smooth curves, and through others straight lines.
-/
namespace RoadSketch

variable {α : Type} [Scalar α]

structure Connection (α : Type) where
  target : LaneId
  ribbon : Ribbon α
  deriving Repr

/-- A curve that was asked for, and the junction it leads through. -/
structure CurveQuery (α : Type) where
  junction : JunctionId
  request : CurveRequest α
  deriving Repr

/-- All connections from one lane, ordered by the lane they lead to. -/
structure Connections (α : Type) where
  source : LaneId
  all : List (Connection α)
  deriving Repr

/-- Edges with more lanes than this are not worth smoothing. -/
def mostSmoothedLanes : Nat := 10

/-- Junctions have to enclose more than this for curves to be worth it. -/
def leastSmoothedArea : α := 4

/-- How many points a curve has, and how many meters per lane it may go straight on. -/
def curvePoints : Nat := 5

namespace Connections

def none (source : LaneId) : Connections α := ⟨source, []⟩

/-- Puts a connection in its place. -/
def insertInto (added : Connection α) : List (Connection α) → List (Connection α)
  | [] => [added]
  | first :: rest =>
    if added.target.before first.target then added :: first :: rest
    -- It takes the place of one to the same lane.
    else if added.target = first.target then added :: rest
    else first :: insertInto added rest

def insert (connections : Connections α) (added : Connection α) : Connections α :=
  { connections with all := insertInto added connections.all }

def ribbon? (connections : Connections α) (target : LaneId) : Option (Ribbon α) :=
  (connections.all.find? (·.target == target)).map (·.ribbon)

def contains (connections : Connections α) (target : LaneId) : Bool :=
  connections.all.any (·.target == target)

def targets (connections : Connections α) : List LaneId := connections.all.map (·.target)

def ribbon (connections : Connections α) (target : LaneId) : Checked α (Ribbon α) :=
  match connections.ribbon? target with
  | some ribbon => .ok ribbon
  | Option.none => .error (.noConnection connections.source target)

end Connections

/-- The straight line from the end of one path to the start of another. -/
def straightLink (source target : Polyline α) : Polyline α :=
  ⟨source.last?.toList ++ target.first?.toList⟩

/-- How curves out of one lane through the next junction are drawn. -/
structure CurvePlan (α : Type) where
  junction : JunctionId
  isSmooth : Bool
  /-- The count of lanes of the edge that is left. -/
  lanes : Nat
  turnaround : Option EdgeId
  deriving Repr

namespace Network

/-- Lane shapes as they were before any adjustment for drawing, for the lanes where they differ. -/
abbrev RawShapes (α : Type) := List (LaneId × Polyline α)

def rawShape (network : Network α) (raw : RawShapes α) (id : LaneId) : Checked α (Polyline α) :=
  match raw.find? (·.1 == id) with
  | some (_, shape) => .ok shape
  | none => network.laneShape id

def curvePlan (network : Network α) (edge : EdgeId) (junction : JunctionId) :
    Checked α (CurvePlan α) := do
  let lanes ← network.laneCount edge
  let isSmooth ←
    if lanes ≤ mostSmoothedLanes then
      pure (decide ((← network.junctionShape junction).area > leastSmoothedArea))
    else pure false
  return ⟨junction, isSmooth, lanes, ← network.turnaround? edge⟩

def CurvePlan.request (plan : CurvePlan α) (target : EdgeId) (lanes : Nat) : CurveRequest α :=
  { points := curvePoints
    isTurnaround := plan.turnaround == some target
    extendStart := Scalar.ofNat (curvePoints * plan.lanes)
    extendFinish := Scalar.ofNat (curvePoints * lanes) }

def connectorShape (network : Network α) (raw : RawShapes α) (plan : CurvePlan α) (source : LaneId)
    (lanes : Nat) (target : LaneId) : Checked α (Polyline α) := do
  if plan.isSmooth then
    smoothCurve (← network.rawShape raw source) (← network.rawShape raw target)
      (CurvePlan.request plan target.edge lanes)
  else
    return straightLink (← network.laneShape source) (← network.laneShape target)

/-- The connections from a lane to all lanes of an edge, added to those that there are. -/
def connectEdge (network : Network α) (raw : RawShapes α) (plan : CurvePlan α) (source : LaneId)
    (found : Connections α) (edge : EdgeId) : Checked α (Connections α) := do
  let lanes ← network.laneCount edge
  (← network.lanesOf edge).foldlM (fun found target => do
    let shape ← network.connectorShape raw plan source lanes target
    return found.insert ⟨target, ← Ribbon.ofShape shape⟩) found

/-- The connections from a lane through the junction its edge ends at. -/
def connectThrough (network : Network α) (raw : RawShapes α) (source : LaneId)
    (junction : JunctionId) : Checked α (Connections α) := do
  let plan ← network.curvePlan source.edge junction
  (network.outgoing junction).foldlM (network.connectEdge raw plan source) (Connections.none source)

/-- All connections from a lane. -/
def connections (network : Network α) (raw : RawShapes α) (source : LaneId) :
    Checked α (Noted α (Connections α)) :=
  match network.target? source.edge with
  -- An edge that is not there ends nowhere.
  | none => return ⟨Connections.none source, [.deadEnd source]⟩
  | some junction => return .silent (← network.connectThrough raw source junction)

/-- Finds all connections from the same lane anew, whatever they were before. -/
def refresh (network : Network α) (raw : RawShapes α) (old : Connections α) :
    Checked α (Noted α (Connections α)) :=
  network.connections raw old.source

/-- The curves that are asked for to find the connections from a lane, in order. -/
def curveQueries (network : Network α) (source : LaneId) : Checked α (List (CurveQuery α)) :=
  match network.target? source.edge with
  | none => return []
  | some junction => do
    let plan ← network.curvePlan source.edge junction
    if !plan.isSmooth then return []
    let queries ← (network.outgoing junction).mapM fun edge => do
      let lanes ← network.laneCount edge
      return List.replicate lanes ⟨junction, CurvePlan.request plan edge lanes⟩
    return queries.flatten

end Network

end RoadSketch
