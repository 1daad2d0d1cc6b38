import RoadSketch.Canvas.Command
import RoadSketch.Document.Geometry
import RoadSketch.Document.Settings

/-!
# Stored drawings

Drawing commands as JSON, for plotting scripts.
-/
namespace RoadSketch

namespace Command

def toJson : Command Float → Json
  | .pushTransform => .string "PushMatrix"
  | .popTransform => .string "PopMatrix"
  | .translate dx dy dz =>
    .tagged "Translate" (.record [("dx", .ofDouble dx), ("dy", .ofDouble dy), ("dz", .ofDouble dz)])
  | .rotate degrees => .tagged "Rotate" (.ofDouble degrees)
  | .setColor color => .tagged "SetColor" color.toJson
  | .box origin bearing length width offset =>
    .tagged "BoxLine" (.record [("origin", origin.toJson), ("rotation", .ofDouble bearing),
      ("length", length.toJson), ("width", .ofDouble width), ("offset", .ofDouble offset)])
  | .line shape => .tagged "Line" shape.toJson
  | .disc circle resolution =>
    .tagged "FilledCircle" (.record [("circle", circle.toJson), ("resolution", .ofNat resolution)])
  | .text content position layer size color =>
    .tagged "Text" (.record [("text", .string content), ("pos", position.toJson),
      ("layer", .ofDouble layer), ("size", .ofDouble size), ("color", color.toJson)])
  | .arrowhead tail tip width length offset =>
    .tagged "TriangleAtEnd" (.record [("from", tail.toJson), ("to", tip.toJson),
      ("width", .ofDouble width), ("length", .ofDouble length), ("offset", .ofDouble offset)])

end Command

def Drawing.toJson (drawing : Drawing Float) : Json :=
  .record [("cmds", .array (drawing.map Command.toJson))]

end RoadSketch
