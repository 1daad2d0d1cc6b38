import RoadSketch.Document.Network
import RoadSketch.Document.Settings
import RoadSketch.Json.Reader
import RoadSketch.Network.Validity

/-!
# Loading documents

Settings, options, networks and lists of points out of the text of a file.
-/
namespace RoadSketch

/-- Why the contents of a file are of no use. -/
inductive LoadError where
  | malformed (kind file : String)
  | invalidNetwork (defect : NetworkDefect)
  | badPoint (file : String) (x y : Float)

def LoadError.message : LoadError → String
  | .malformed kind file => "parsing " ++ kind ++ " from " ++ file
  | .invalidNetwork defect => defect.message
  | .badPoint file x y =>
    file ++ " has a bad point " ++ NumberLayout.plain.double x ++ ", " ++ NumberLayout.plain.double y

def loadDocument {β : Type} (kind : String) (decode : Json → Option β) (file text : String) :
    Except LoadError β :=
  match (Json.ofText? text).bind decode with
  | some value => .ok value
  | none => .error (.malformed kind file)

/-- Reads settings; what is missing takes its standard value. -/
def Settings.load (file text : String) : Except LoadError (Settings Float) :=
  loadDocument "visualization settings" Settings.ofJson? file text

def EditorOptions.load (file text : String) : Except LoadError EditorOptions :=
  loadDocument "editor options" EditorOptions.ofJson? file text

def Network.load (file text : String) : Except LoadError (Network Float) := do
  let network ← loadDocument "network" Network.ofJson? file text
  match network.defect? with
  | some defect => throw (.invalidNetwork defect)
  | none => return network

def Polyline.loadPoints (file text : String) : Except LoadError (Polyline Float) := do
  let pairs ← loadDocument "points" (Json.list? (Json.pair? Json.double?)) file text
  let points ← pairs.mapM fun (x, y) =>
    match Point.ofCoordinates x y with
    | .ok p => .ok p
    | .error _ => .error (.badPoint file x y)
  return ⟨points⟩

end RoadSketch
