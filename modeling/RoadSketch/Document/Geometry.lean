import RoadSketch.Double
import RoadSketch.Json.Codec
import RoadSketch.Polyline.Basic

/-!
# Stored geometry

Points, distances, angles, segments, circles and polylines as JSON. What is read is taken as it is:
coordinates are not brought to the stored precision.
-/
namespace RoadSketch

namespace Distance

def toJson (distance : Distance Float) : Json := .ofDouble distance.meters

def ofJson? (value : Json) : Option (Distance Float) := value.double?.map Distance.mk

end Distance

namespace Angle

def toJson (angle : Angle Float) : Json := .ofDouble angle.radians

def ofJson? (value : Json) : Option (Angle Float) := value.double?.map Angle.mk

end Angle

namespace Point

def toJson (p : Point Float) : Json := .record [("x", .ofDouble p.x), ("y", .ofDouble p.y)]

def ofJson? (value : Json) : Option (Point Float) := do
  match ← value.fields? ["x", "y"] with
  | [x, y] => some ⟨← Json.required Json.double? x, ← Json.required Json.double? y⟩
  | _ => none

/-- A point as a bare pair of coordinates. -/
def toPair (p : Point Float) : Json := .array [.ofDouble p.x, .ofDouble p.y]

end Point

namespace Line

def toJson (line : Line Float) : Json := .array [line.start.toJson, line.finish.toJson]

def ofJson? (value : Json) : Option (Line Float) := do
  let (start, finish) ← value.pair? Point.ofJson?
  some ⟨start, finish⟩

end Line

namespace Circle

def toJson (circle : Circle Float) : Json :=
  .record [("center", circle.center.toJson), ("radius", circle.radius.toJson)]

def ofJson? (value : Json) : Option (Circle Float) := do
  match ← value.fields? ["center", "radius"] with
  | [center, radius] =>
    some ⟨← Json.required Point.ofJson? center, ← Json.required Distance.ofJson? radius⟩
  | _ => none

end Circle

namespace Polyline

def toJson (shape : Polyline Float) : Json :=
  .record [("pts", .array (shape.points.map Point.toJson))]

def ofJson? (value : Json) : Option (Polyline Float) := do
  match ← value.fields? ["pts"] with
  | [points] => some ⟨← Json.required (Json.list? Point.ofJson?) points⟩
  | _ => none

end Polyline

end RoadSketch
