import RoadSketch.Document.Geometry
import RoadSketch.Network.Basic

/-!
# Stored networks

Networks as JSON. An edge that does not say which edge goes back has none.
-/
namespace RoadSketch

namespace EdgeId

def toJson (id : EdgeId) : Json := .ofNat id.index

def ofJson? (value : Json) : Option EdgeId := value.index?.map EdgeId.mk

end EdgeId

namespace JunctionId

def toJson (id : JunctionId) : Json := .ofNat id.index

def ofJson? (value : Json) : Option JunctionId := value.index?.map JunctionId.mk

end JunctionId

namespace LaneId

def toJson (id : LaneId) : Json := .record [("edge", id.edge.toJson), ("index", .ofNat id.index)]

def ofJson? (value : Json) : Option LaneId := do
  match ← value.fields? ["edge", "index"] with
  | [edge, index] => some ⟨← Json.required EdgeId.ofJson? edge, ← Json.required Json.index? index⟩
  | _ => none

end LaneId

namespace Lane

def toJson (lane : Lane Float) : Json :=
  .record [("shape", lane.shape.toJson), ("width", .ofDouble lane.width)]

def ofJson? (value : Json) : Option (Lane Float) := do
  match ← value.fields? ["shape", "width"] with
  | [shape, width] =>
    some ⟨← Json.required Polyline.ofJson? shape, ← Json.required Json.double? width⟩
  | _ => none

end Lane

namespace Edge

def toJson (edge : Edge Float) : Json :=
  .record [("id", edge.id.toJson), ("src", edge.source.toJson), ("dst", edge.target.toJson),
    ("lanes", .array (edge.lanes.map Lane.toJson)),
    ("turn_destination", Json.ofOption EdgeId.toJson edge.turnaround)]

def ofJson? (value : Json) : Option (Edge Float) := do
  match ← value.fields? ["id", "src", "dst", "lanes", "turn_destination"] with
  | [id, source, target, lanes, turnaround] =>
    some ⟨← Json.required EdgeId.ofJson? id, ← Json.required JunctionId.ofJson? source,
      ← Json.required JunctionId.ofJson? target,
      ← Json.required (Json.list? Lane.ofJson?) lanes,
      ← Json.orElse none (Json.option? EdgeId.ofJson?) turnaround⟩
  | _ => none

end Edge

namespace Junction

def toJson (junction : Junction Float) : Json :=
  .record [("id", junction.id.toJson), ("shape", junction.shape.toJson)]

def ofJson? (value : Json) : Option (Junction Float) := do
  match ← value.fields? ["id", "shape"] with
  | [id, shape] =>
    some ⟨← Json.required JunctionId.ofJson? id, ← Json.required Polyline.ofJson? shape⟩
  | _ => none

end Junction

namespace Network

def toJson (network : Network Float) : Json :=
  .record [("junctions", .array (network.junctions.map Junction.toJson)),
    ("edges", .array (network.edges.map Edge.toJson))]

def ofJson? (value : Json) : Option (Network Float) := do
  match ← value.fields? ["junctions", "edges"] with
  | [junctions, edges] =>
    some ⟨← Json.required (Json.list? Junction.ofJson?) junctions,
      ← Json.required (Json.list? Edge.ofJson?) edges⟩
  | _ => none

end Network

end RoadSketch
