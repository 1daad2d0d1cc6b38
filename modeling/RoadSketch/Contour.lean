import RoadSketch.Dash.Line
import RoadSketch.Network.Basic
import RoadSketch.Polyline.Ring
import RoadSketch.Warning

/-!
# Contours

Dashed outlines around edges, paths, closed shapes, circles and rectangles. They highlight what is
being inspected or is in front of other things.
-/
namespace RoadSketch

variable {α : Type} [Scalar α]

/-- Outlines are drawn above everything else, those of what is in front above the others. -/
def OutlineKind.layer : OutlineKind → α
  | .front => 1030
  | _ => 1020

namespace Contour

/-- Circles smaller than this, once exaggerated, have fewer sides. -/
def smallRadius : α := 2

def laneHalfWidth (settings : Settings α) (network : Network α) (lane : LaneId) : Checked α α :=
  return settings.laneWidthExaggeration * (← network.laneWidth lane) / 2

/-- Draws the top, the bottom and the connectors between them. -/
def sides (kind : OutlineKind) (settings : Settings α) (top bottom connectors : DashedLine α)
    (width : Option α) : Drawing α :=
  -- The colors start over for the bottom and are swapped for the connectors, so that the pattern
  -- goes on around the corners.
  let topDrawing := (top.draw settings kind width .start).1
  let (bottomDrawing, state) := bottom.draw settings kind width .start
  let connectorDrawing := (connectors.draw settings kind width state.flip).1
  Drawing.onLayer kind.layer (topDrawing ++ bottomDrawing ++ connectorDrawing)

/-- Outlines both sides of a path, `width * exaggeration` away from it, and joins them at the start
and at the end as far as that is wanted. -/
def path (kind : OutlineKind) (settings : Settings α) (shape : Polyline α) (width exaggeration : α)
    (joinStarts joinEnds : Bool) (lineWidth : Option α) : Checked α (Drawing α) := do
  let center ← DashedLine.ofShape settings shape false
  let top := (← center.shift (width * exaggeration)).invert
  let bottom ← center.shift (-width * exaggeration)
  let connectors ← DashedLine.connectors settings top joinStarts bottom joinEnds
  return sides kind settings top bottom connectors lineWidth

/-- Outlines the two outermost lanes of an edge on their outer sides. -/
def lanePair (kind : OutlineKind) (settings : Settings α) (network : Network α)
    (topLane bottomLane : LaneId) (joinStarts joinEnds : Bool) : Checked α (Drawing α) := do
  let top ← DashedLine.ofShape settings (← network.laneShape topLane) false
  let bottom ← DashedLine.ofShape settings (← network.laneShape bottomLane) false
  let top ← top.shift (← laneHalfWidth settings network topLane)
  let bottom ← bottom.shift (-(← laneHalfWidth settings network bottomLane))
  let top := top.invert
  let connectors ← DashedLine.connectors settings top joinStarts bottom joinEnds
  return sides kind settings top bottom connectors none

/-- Outlines a whole edge. -/
def edge (kind : OutlineKind) (settings : Settings α) (options : EditorOptions)
    (network : Network α) (id : EdgeId) (joinStarts joinEnds : Bool) :
    Checked α (Noted α (Drawing α)) := do
  match ← network.lanesOf id with
  | [] => return ⟨[], [.noLanes id]⟩
  | [lane] =>
    let shape ← network.laneShape lane
    let width ← laneHalfWidth settings network lane
    return .silent (← path kind settings shape width 1 joinStarts joinEnds none)
  | first :: second :: rest =>
    -- Which of the outermost lanes is on top depends on the side of the road that is driven on.
    let last := rest.getLastD second
    let (top, bottom) := match options.drivingSide with
      | .left => (last, first)
      | .right => (first, last)
    return .silent (← lanePair kind settings network top bottom joinStarts joinEnds)

/-- Outlines a closed shape, grown or shrunk around its center. -/
def closedShape (kind : OutlineKind) (settings : Settings α) (shape : Polyline α) (exaggeration : α)
    (lineWidth : Option α) : Checked α (Noted α (Drawing α)) := do
  if exaggeration ≤ 0 then return ⟨[], [.noExaggeration exaggeration]⟩
  let dashed ← DashedLine.ofShape settings (← shape.scale exaggeration) true
  return .silent (Drawing.onLayer kind.layer (dashed.draw settings kind lineWidth .start).1)

def circle (kind : OutlineKind) (settings : Settings α) (center : Point α)
    (radius exaggeration : α) : Checked α (Noted α (Drawing α)) := do
  let sides := if radius * exaggeration < smallRadius then 8 else 16
  closedShape kind settings (← Polyline.ring center radius sides) exaggeration none

/-- A rectangle of `2 * width` by `2 * height`, moved by an offset, turned to a bearing and then
centered on a point. -/
def rectangleShape (position : Point α) (width height offsetX offsetY bearing : α) :
    Checked α (Polyline α) := do
  let corners ← [(width, height), (width, -height), (-width, -height), (-width, height)].mapM
    fun (x, y) => Point.ofCoordinates x y
  let moved ← (Polyline.mk corners).translate offsetX offsetY
  let turned ← moved.rotate (Angle.ofDegrees (-bearing + 90))
  turned.translate position.x position.y

def rectangle (kind : OutlineKind) (settings : Settings α) (position : Point α)
    (width height offsetX offsetY bearing exaggeration : α) : Checked α (Noted α (Drawing α)) := do
  let shape ← rectangleShape position width height offsetX offsetY bearing
  closedShape kind settings shape exaggeration none

end Contour

end RoadSketch
