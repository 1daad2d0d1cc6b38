import RoadSketch.Color.Hex
import RoadSketch.Double
import RoadSketch.Polyline.Basic

/-!
# Displays

Geometry and colors as text for people.
-/
namespace RoadSketch

/-- A number without an exponent, and without a point if it is whole. -/
def shown (x : Float) : String := NumberLayout.plain.double x

def Distance.display (distance : Distance Float) : String := shown distance.meters ++ "m"

def Angle.display (angle : Angle Float) : String :=
  "Angle(" ++ shown angle.normalDegrees ++ " degrees)"

namespace Point

def display (p : Point Float) : String := "Pt2D(" ++ shown p.x ++ ", " ++ shown p.y ++ ")"

def entry (p : Point Float) : String := "  Pt2D::new(" ++ shown p.x ++ ", " ++ shown p.y ++ "),"

end Point

def Circle.display (circle : Circle Float) : String :=
  "Circle(" ++ circle.center.display ++ ", " ++ circle.radius.display ++ ")"

def Line.display (line : Line Float) : String :=
  "Line::new(\n" ++ line.start.entry ++ "\n" ++ line.finish.entry ++ "\n)"

namespace Polyline

/-- The entry of the end of a segment, with the way from its start. -/
def stepEntry (line : Line Float) : String :=
  line.finish.entry ++ "    // " ++ shown (line.finish.x - line.start.x) ++ ", " ++
    shown (line.finish.y - line.start.y) ++ "\n"

def display (shape : Polyline Float) : String :=
  let entries := match shape.first? with
    | some first => first.entry ++ "\n" ++ String.join (shape.segments.map stepEntry)
    | none => ""
  "PolyLine::new(vec![\n" ++ entries ++ "])"

end Polyline

/-- A color with its channels, as a listing of values shows it. -/
def Color.listing (color : Color) : String :=
  let channel (x : Float32) := NumberLayout.plain.single x
  "Color(r=" ++ channel color.red ++ ", g=" ++ channel color.green ++ ", b=" ++ channel color.blue ++
    ", a=" ++ channel color.alpha ++ ")"

end RoadSketch
