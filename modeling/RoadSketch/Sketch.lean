import RoadSketch.Canvas.Command
import RoadSketch.Settings

/-!
# Sketches

What an editor draws of geometry that is being edited: the shapes themselves, handles on their
points, hints for new points, and lines between related elements.
-/
namespace RoadSketch

variable {α : Type} [Scalar α]

/-- How the current frame is looked at. -/
structure View (α : Type) where
  mouse : Point α
  /-- Pixels per meter. -/
  scale : α
  /-- Is only what is under the mouse of interest? -/
  isSelecting : Bool
  isMoving : Bool
  deriving Repr

namespace View

/-- The count of sides of circles. -/
def circleResolution (view : View α) : Nat :=
  -- Looking closer makes circles rounder.
  if view.isSelecting || decide (view.scale < 1) then 8
  else if view.scale < 10 then 16
  else if view.scale < 20 then 32
  else 64

/-- Is the view close enough for some detail to show? -/
def shows (view : View α) (detail exaggeration : α) : Bool := view.scale * exaggeration ≥ detail

end View

namespace Sketch

/-- Handles are drawn slightly above the shape they belong to. -/
def handleLayer : α := 2 / 10

def labelLayer : α := 1 / 10

/-- From which distance on lines between elements are cut short, and to which length. -/
def stubLength : α := 5

/-- The point of a shape nearest to `p`, if it is no further away than `reach`. -/
def nearestWithin? (shape : Polyline α) (p : Point α) (reach : α) : Checked α (Option (Point α)) := do
  let nearest? ← if shape.points.length > 1 then shape.pointAt? (← shape.nearestOffset p)
    else pure shape.first?
  match nearest? with
  | none => return none
  | some nearest => return if (← nearest.distanceTo p).meters ≤ reach then some nearest else none

/-- Marks the spot of a shape that is under the mouse. -/
def spot (view : View α) (shape : Polyline α) (width : α) : Checked α (Drawing α) := do
  match ← nearestWithin? shape view.mouse width with
  | none => return []
  | some p => return [.disc ⟨p, ← Distance.ofMeters width⟩ view.circleResolution]

def ribbon (view : View α) (ribbon : Ribbon α) (width : α) : Checked α (Drawing α) :=
  if view.isSelecting then spot view ribbon.shape width
  -- Below a pixel the thickness would not show.
  else if view.scale * width < 1 then return [.line ribbon.shape]
  else return Drawing.boxes ribbon.shape ribbon.bearings ribbon.lengths width

/-- The outline of a thick path. With `joined`, its two sides are one loop. -/
def outline (shape : Polyline α) (width : α) (joined : Bool) : Checked α (Drawing α) := do
  if shape.points.length < 2 || width ≤ 0 then return []
  let right ← shape.shift (width - 1 / 10)
  let left ← shape.shift (-width + 1 / 10)
  if joined then
    Drawing.boxesAlong (right.extend left.reversed).closeLoop (1 / 10)
  else
    return (← Drawing.boxesAlong right (1 / 10)) ++ (← Drawing.boxesAlong left (1 / 10))

def handle (circle : Circle α) (resolution : Nat) : Drawing α :=
  Drawing.onLayer handleLayer [.disc circle resolution]

def label (text : String) (position : Point α) (size : α) (color : Color) : Command α :=
  .text text position labelLayer size color

/-- The labels of the ends of a shape. -/
def endLabels (shape : Polyline α) (size : α) (color : Color) : Drawing α :=
  match shape.first?, shape.last? with
  | some first, some last =>
    -- A closed shape ends where it starts.
    label "S" first size color ::
      if shape.points.length > 1 && !shape.isClosed then [label "E" last size color] else []
  | _, _ => []

/-- Handles on the points of a shape, and labels on its ends when looked at closely. -/
def handles (view : View α) (settings : Settings α) (shape : Polyline α)
    (pointColor textColor : Color) (radius exaggeration : α) : Checked α (Drawing α) := do
  let radius := radius * exaggeration
  let discs ← shape.points.mapM fun p => do
    let circle : Circle α := ⟨p, ← Distance.ofMeters radius⟩
    -- While selecting, only what is under the mouse is drawn.
    return if view.isSelecting && !circle.contains view.mouse then []
      else handle circle view.circleResolution
  let labels := if view.isSelecting || !view.shows settings.pointLabelDetail exaggeration then []
    else endLabels shape (2 * radius) textColor
  return .setColor pointColor :: discs.flatten ++ labels

def isOnHandle (points : List (Point α)) (mouse : Point α) (radius : α) : Checked α Bool :=
  -- Points after the first hit are not looked at.
  points.anyM fun p => return (Circle.mk p (← Distance.ofMeters radius)).contains mouse

/-- While moving things, where a new point would be added to a shape. -/
def hint (view : View α) (shape : Polyline α) (color : Color) (radius exaggeration : α) :
    Checked α (Drawing α) := do
  if !view.isMoving || view.isSelecting then return []
  let radius := radius * exaggeration
  match ← nearestWithin? shape view.mouse radius with
  | none => return []
  | some p =>
    -- Existing points have handles of their own.
    if ← isOnHandle shape.points view.mouse radius then return []
    return .setColor color ::
      handle ⟨p, ← Distance.ofMeters radius⟩ view.circleResolution

/-- A lane, with a color for every segment if there are any, or just its outline. -/
def lane (view : View α) (shape : Polyline α) (bearings : List α) (lengths : List (Distance α))
    (colors : List Color) (width : α) (onlyContour : Bool) : Checked α (Drawing α) :=
  if view.isSelecting then spot view shape width
  else if onlyContour then outline shape width true
  else return Drawing.coloredBoxes shape bearings lengths colors width

def border (color : Color) : Checked α Color :=
  match color.brighten? (-50) with
  | some darker => .ok darker
  | none => .error .overflow

/-- A dark line with a thinner one of the real color just in front of it. -/
def twoToneLine (start : Point α) (bearing : α) (length : Distance α) (color : Color) :
    Checked α (Drawing α) := do
  return [.setColor (← border color), .box start bearing length (5 / 100) 0,
    .translate 0 0 (1 / 10), .setColor color, .box start bearing length (4 / 100) 0]

def fullLine (start finish : Point α) (color : Color) : Checked α (Drawing α) := do
  let length ← start.distanceTo finish
  return Drawing.onLayer (-1) (← twoToneLine start (start.bearingTo finish) length color)

/-- An arrowhead at the tip of a stub, with a dark border. -/
def stubArrow (arrows : ArrowSettings α) (tail tip : Point α) (color : Color) :
    Checked α (Drawing α) := do
  let inset : α := 1 / 100
  return [.setColor (← border color), .arrowhead tail tip arrows.width arrows.length arrows.offset,
    .translate 0 0 (1 / 10), .setColor color,
    .arrowhead tail tip (arrows.width - inset) (arrows.length - inset) (arrows.offset - inset)]

def stubTip (start finish : Point α) (stub : Distance α) : Checked α (Point α) :=
  match Line.between start finish with
  | .ok line => line.pointAt stub
  -- Elements too close to each other have no line between them to follow.
  | .error (.shortSegment ..) => .ok finish
  | .error fault => .error fault

/-- A short piece of a line towards another element, with an arrow if that is far away. -/
def stubLine (settings : Settings α) (start finish : Point α) (color : Color) :
    Checked α (Drawing α) := do
  let stub ← Distance.ofMeters stubLength
  let line ← twoToneLine start (start.bearingTo finish) stub color
  let arrow ←
    if start.squaredDistanceTo finish > Scalar.square (2 * stubLength) then do
      stubArrow settings.arrows start (← stubTip start finish stub) color
    else pure []
  return Drawing.onLayer (-1) (line ++ arrow)

/-- The line from a parent towards its child. -/
def parentLine (view : View α) (settings : Settings α) (parent child : Point α) (color : Color)
    (whole : Bool) : Checked α (Drawing α) :=
  if view.isSelecting then return []
  else if whole then fullLine parent child color
  else if parent.squaredDistanceTo child > Scalar.square stubLength then
    stubLine settings parent child color
  -- Elements close to each other have no line, unless a whole one is wanted.
  else return []

/-- The line from a child towards its parent, which is whole between elements close to each other. -/
def childLine (view : View α) (settings : Settings α) (child parent : Point α) (color : Color)
    (whole : Bool) : Checked α (Drawing α) :=
  if view.isSelecting then return []
  else if whole || decide (child.squaredDistanceTo parent < Scalar.square stubLength) then
    fullLine child parent color
  else stubLine settings child parent color

/-- Turns the canvas so that what is drawn along the second axis follows a lane. -/
def alongLane (bearing : α) : Command α := .rotate (-bearing + 90)

end Sketch

end RoadSketch
