import RoadSketch.Polyline.Arclength
import RoadSketch.Polyline.Area
import RoadSketch.Polyline.Shift
import RoadSketch.Ribbon.Window

/-!
# Ribbons

A polyline together with the bearing and length of each of its segments, ready to be drawn frame
after frame. A ribbon may also be a single point with a bearing.
-/
namespace RoadSketch

variable {α : Type} [Scalar α]

/-- The compass bearing of every segment. -/
def Polyline.bearings (shape : Polyline α) : List α := shape.segments.map Line.bearing

/-- The length of every segment. -/
def Polyline.lengths (shape : Polyline α) : Checked α (List (Distance α)) :=
  shape.segments.mapM Line.length

/-- What a ribbon was before it was scaled, and by how much. -/
structure Unscaled (α : Type) where
  shape : Polyline α
  lengths : List (Distance α)
  factor : α
  deriving Repr

/-- A shape with its bearings and lengths. While it is scaled it remembers the state it started
from: points and lengths are rounded, so every scaling starts over from there. -/
structure Ribbon (α : Type) where
  shape : Polyline α
  bearings : List α
  lengths : List (Distance α)
  unscaled : Option (Unscaled α)
  deriving Repr

namespace Ribbon

def empty : Ribbon α := ⟨Polyline.empty, [], [], none⟩

def ofShape (shape : Polyline α) : Checked α (Ribbon α) :=
  return ⟨shape, shape.bearings, ← shape.lengths, none⟩

def ofParts (shape : Polyline α) (bearings : List α) (lengths : List (Distance α)) : Ribbon α :=
  ⟨shape, bearings, lengths, none⟩

def ofPoint (point : Point α) (bearing : α) : Ribbon α := ⟨⟨[point]⟩, [bearing], [], none⟩

/-- The point some distance along a shape, moved sideways, with the bearing of the shape there. -/
def ofPosition (shape : Polyline α) (position : Distance α) (lateral : α) :
    Checked α (Ribbon α) := do
  let position := position.clamp Distance.zero (← shape.length)
  match ← shape.pointBeside? position lateral with
  | none => return empty
  | some point =>
    -- Where the shape has no direction, the bearing is zero.
    return ofPoint point (((← shape.directionAt? position).map Angle.bearing).getD 0)

/-- The part of a shape between two positions, after moving the shape sideways. -/
def ofWindow (shape : Polyline α) (start finish : Distance α) (lateral : α) :
    Checked α (Ribbon α) := do
  let shifted ← shape.shift lateral
  let window ← Window.ofPositions start finish (← shifted.length)
  ofShape (← shifted.slice window.start window.finish)

/-- The part of a shape that two trims leave, with further points glued onto its ends. -/
def ofTrims (shape : Polyline α) (start finish : Option (Distance α)) (first last : Option (Point α)) :
    Checked α (Ribbon α) := do
  -- Without any trim nothing is glued on either.
  if start.isNone && finish.isNone then return ← ofShape shape
  let window ← Window.ofTrims start finish (← shape.length)
  let piece ← shape.slice window.start window.finish
  let piece := match first with
    | some p => piece.prepend p
    | none => piece
  let piece := match last with
    | some p => piece.append p
    | none => piece
  ofShape piece

/-- What scaling starts over from: the state before any scaling, and the factor so far. -/
def baseline (ribbon : Ribbon α) : Unscaled α :=
  ribbon.unscaled.getD ⟨ribbon.shape, ribbon.lengths, 1⟩

/-- Grows or shrinks a ribbon around the center of its shape. Bearings stay as they are. -/
def scale (ribbon : Ribbon α) (factor : α) : Checked α (Ribbon α) := do
  -- Factors are multiplied, and applied to the state before the first of them.
  let baseline := ribbon.baseline
  let total := baseline.factor * factor
  let shape ← baseline.shape.scale total
  let lengths ← baseline.lengths.mapM (·.scale total)
  return ⟨shape, ribbon.bearings, lengths, some { baseline with factor := total }⟩

/-- A change that an editor makes to a ribbon. -/
inductive Edit (α : Type) where
  | redraw (shape : Polyline α)
  | collapse (shape : Polyline α) (position : Distance α) (lateral : α)
  | cut (shape : Polyline α) (start finish : Distance α) (lateral : α)
  | trim (shape : Polyline α) (start finish : Option (Distance α)) (first last : Option (Point α))
  | place (point : Point α) (bearing : α)
  | scale (factor : α)
  | clear
  deriving Repr

/-- Makes one change. -/
def edit (ribbon : Ribbon α) : Edit α → Checked α (Ribbon α)
  | .redraw shape => ofShape shape
  | .collapse shape position lateral => ofPosition shape position lateral
  | .cut shape start finish lateral => ofWindow shape start finish lateral
  | .trim shape start finish first last => ofTrims shape start finish first last
  | .place point bearing => return ofPoint point bearing
  | .scale factor => ribbon.scale factor
  | .clear => return empty

def edits (ribbon : Ribbon α) (changes : List (Edit α)) : Checked α (Ribbon α) :=
  changes.foldlM edit ribbon

end Ribbon

end RoadSketch
