import RoadSketch.Color.Hex
import RoadSketch.Dash.Color
import RoadSketch.Double
import RoadSketch.Json.Codec
import RoadSketch.Settings

/-!
# Stored settings

Colors, outline kinds, settings and options as JSON. Colors are kept in their text form, so that
settings stay readable. Parts of the settings that are missing take their standard values.
-/
namespace RoadSketch

namespace Color

def toJson (color : Color) : Json := .string color.toText

def ofJson? (value : Json) : Option Color := do (Color.ofText (← value.text?)).toOption

end Color

namespace OutlineKind

def toName : OutlineKind → String
  | .inspect => "Inspect"
  | .front => "Front"
  | .green => "Green"
  | .magenta => "Magenta"
  | .remove => "Remove"
  | .select => "Select"

def ofStoredName? (name : String) : Option OutlineKind :=
  [inspect, front, green, magenta, remove, select].find? (·.toName == name)

def toJson (kind : OutlineKind) : Json := .string kind.toName

def ofJson? (value : Json) : Option OutlineKind := value.alternative? ofStoredName?

end OutlineKind

namespace DashSettings

def toJson (dashes : DashSettings Float) : Json :=
  .record [("segment_width", .ofDouble dashes.width),
    ("segment_length", .ofDouble dashes.length),
    ("first_inspected_color", dashes.firstInspected.toJson),
    ("second_inspected_color", dashes.secondInspected.toJson),
    ("first_front_color", dashes.firstFront.toJson),
    ("second_front_color", dashes.secondFront.toJson)]

def ofJson? (value : Json) : Option (DashSettings Float) := do
  match ← value.fields? ["segment_width", "segment_length", "first_inspected_color",
      "second_inspected_color", "first_front_color", "second_front_color"] with
  | [width, length, firstInspected, secondInspected, firstFront, secondFront] =>
    some ⟨← Json.required Json.double? width, ← Json.required Json.double? length,
      ← Json.required Color.ofJson? firstInspected, ← Json.required Color.ofJson? secondInspected,
      ← Json.required Color.ofJson? firstFront, ← Json.required Color.ofJson? secondFront⟩
  | _ => none

end DashSettings

namespace ArrowSettings

def toJson (arrows : ArrowSettings Float) : Json :=
  .record [("width", .ofDouble arrows.width), ("length", .ofDouble arrows.length),
    ("offset", .ofDouble arrows.offset)]

def ofJson? (value : Json) : Option (ArrowSettings Float) := do
  match ← value.fields? ["width", "length", "offset"] with
  | [width, length, offset] =>
    some ⟨← Json.required Json.double? width, ← Json.required Json.double? length,
      ← Json.required Json.double? offset⟩
  | _ => none

end ArrowSettings

namespace Settings

def toJson (settings : Settings Float) : Json :=
  .record [("dotted_contour", settings.dashes.toJson), ("arrows", settings.arrows.toJson),
    ("lane_width_exaggeration", .ofDouble settings.laneWidthExaggeration),
    ("geometry_points_text_detail", .ofDouble settings.pointLabelDetail)]

def ofJson? (value : Json) : Option (Settings Float) := do
  let usual : Settings Float := .standard
  match ← value.fields? ["dotted_contour", "arrows", "lane_width_exaggeration",
      "geometry_points_text_detail"] with
  | [dashes, arrows, exaggeration, detail] =>
    some ⟨← Json.orElse usual.dashes DashSettings.ofJson? dashes,
      ← Json.orElse usual.arrows ArrowSettings.ofJson? arrows,
      ← Json.orElse usual.laneWidthExaggeration Json.double? exaggeration,
      ← Json.orElse usual.pointLabelDetail Json.double? detail⟩
  | _ => none

end Settings

namespace DrivingSide

def toName : DrivingSide → String
  | .right => "Right"
  | .left => "Left"

def ofName? (name : String) : Option DrivingSide := [right, left].find? (·.toName == name)

def toJson (side : DrivingSide) : Json := .string side.toName

def ofJson? (value : Json) : Option DrivingSide := value.alternative? ofName?

end DrivingSide

namespace EditorOptions

def toJson (options : EditorOptions) : Json :=
  .record [("driving_side", options.drivingSide.toJson)]

def ofJson? (value : Json) : Option EditorOptions := do
  match ← value.fields? ["driving_side"] with
  | [side] => some ⟨← Json.orElse EditorOptions.standard.drivingSide DrivingSide.ofJson? side⟩
  | _ => none

end EditorOptions

end RoadSketch
