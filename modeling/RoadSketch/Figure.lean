import RoadSketch.Contour
import RoadSketch.Sketch

/-!
# Figures

Everything that an editor draws, in one type, and drawings that figures are added to one after
another.
-/
namespace RoadSketch

variable {α : Type} [Scalar α]

/-- Something to draw, with the settings and the view that it is drawn under. -/
inductive Figure (α : Type) where
  | edgeContour (kind : OutlineKind) (settings : Settings α) (options : EditorOptions)
      (network : Network α) (edge : EdgeId) (joinStarts joinEnds : Bool)
  | closedContour (kind : OutlineKind) (settings : Settings α) (shape : Polyline α)
      (exaggeration : α) (lineWidth : Option α)
  | pathContour (kind : OutlineKind) (settings : Settings α) (shape : Polyline α)
      (width exaggeration : α) (joinStarts joinEnds : Bool) (lineWidth : Option α)
  | circleContour (kind : OutlineKind) (settings : Settings α) (center : Point α)
      (radius exaggeration : α)
  | rectangleContour (kind : OutlineKind) (settings : Settings α) (position : Point α)
      (width height offsetX offsetY bearing exaggeration : α)
  | ribbon (view : View α) (path : Ribbon α) (width : α)
  | outline (path : Ribbon α) (width : α) (joined : Bool)
  | handles (view : View α) (settings : Settings α) (shape : Polyline α)
      (pointColor textColor : Color) (radius exaggeration : α)
  | hint (view : View α) (shape : Polyline α) (color : Color) (radius exaggeration : α)
  | lane (view : View α) (shape : Polyline α) (bearings : List α) (lengths : List (Distance α))
      (colors : List Color) (width : α) (onlyContour : Bool)
  | parentLine (view : View α) (settings : Settings α) (parent child : Point α) (color : Color)
      (whole : Bool)
  | childLine (view : View α) (settings : Settings α) (child parent : Point α) (color : Color)
      (whole : Bool)
  deriving Repr

/-- What a figure looks like. -/
def Figure.draw : Figure α → Checked α (Drawing α)
  | .edgeContour kind settings options network edge joinStarts joinEnds =>
    return (← Contour.edge kind settings options network edge joinStarts joinEnds).value
  | .closedContour kind settings shape exaggeration lineWidth =>
    return (← Contour.closedShape kind settings shape exaggeration lineWidth).value
  | .pathContour kind settings shape width exaggeration joinStarts joinEnds lineWidth =>
    Contour.path kind settings shape width exaggeration joinStarts joinEnds lineWidth
  | .circleContour kind settings center radius exaggeration =>
    return (← Contour.circle kind settings center radius exaggeration).value
  | .rectangleContour kind settings position width height offsetX offsetY bearing exaggeration =>
    return (← Contour.rectangle kind settings position width height offsetX offsetY bearing
      exaggeration).value
  | .ribbon view path width => Sketch.ribbon view path width
  | .outline path width joined => Sketch.outline path.shape width joined
  | .handles view settings shape pointColor textColor radius exaggeration =>
    Sketch.handles view settings shape pointColor textColor radius exaggeration
  | .hint view shape color radius exaggeration => Sketch.hint view shape color radius exaggeration
  | .lane view shape bearings lengths colors width onlyContour =>
    Sketch.lane view shape bearings lengths colors width onlyContour
  | .parentLine view settings parent child color whole =>
    Sketch.parentLine view settings parent child color whole
  | .childLine view settings child parent color whole =>
    Sketch.childLine view settings child parent color whole

namespace Drawing

/-- Draws a figure on top of what is there. -/
def add (drawing : Drawing α) (figure : Figure α) : Checked α (Drawing α) :=
  return drawing ++ (← figure.draw)

def addAll (drawing : Drawing α) (figures : List (Figure α)) : Checked α (Drawing α) :=
  figures.foldlM add drawing

end Drawing

end RoadSketch
