import RoadSketch.CommandLine.Request
import RoadSketch.Contour
import RoadSketch.Document.Drawing
import RoadSketch.Document.Load
import RoadSketch.Json.Printer
import RoadSketch.Network.Connection

/-!
# Answers

Carries out requests. The answer is a document that can be piped into a plotting script.
-/
namespace RoadSketch

inductive FileState where
  | readable (text : String)
  | unreadable
  | missing

/-- Why there is no answer. -/
inductive Failure where
  | usage
  | refused (message : String)
  | crashed (fault : Fault Float)

namespace Answer

abbrev Attempt := Except Failure

def fileText (files : String → FileState) (name : String) : Attempt String :=
  match files name with
  | .readable text => .ok text
  | .unreadable => .error (.refused ("failed to read from file `" ++ name ++ "`"))
  | .missing => .error (.refused ("failed to open file `" ++ name ++ "`"))

def load {β : Type} (files : String → FileState) (read : String → String → Except LoadError β)
    (name : String) : Attempt β := do
  (read name (← fileText files name)).mapError fun error => .refused error.message

/-- The value of a calculation; a fault of it is a crash of the request. -/
def checked {β : Type} (outcome : Checked Float β) : Attempt β := outcome.mapError .crashed

def outline (files : String → FileState) (input : String) (settings : Option String)
    (kind : OutlineKind) (closed : Bool) (width exaggeration : Float) : Attempt Json := do
  let shape ← load files Polyline.loadPoints input
  let settings ← match settings with
    | some name => load files Settings.load name
    | none => pure .standard
  -- Both files are read before the sizes are looked at.
  if !width.isFinite || !exaggeration.isFinite then
    throw (.refused "The width and exaggeration must be finite")
  if closed then
    return Drawing.toJson (← checked (Contour.closedShape kind settings shape exaggeration none)).value
  else
    return Drawing.toJson
      (← checked (Contour.path kind settings shape width exaggeration true true none))

def circle (x y radius : Float) (steps : Nat) : Attempt Json := do
  if !x.isFinite || !y.isFinite || !radius.isFinite then
    throw (.refused "The center and radius must be finite")
  let ring ← checked do Polyline.ring (← Point.ofCoordinates x y) radius steps
  return .array (ring.points.map Point.toPair)

/-- What is written about the connection to a target. -/
def connectionJson (found : Connections Float) (target : LaneId) : Checked Float Json := do
  let ribbon ← found.ribbon target
  return .record [("to", target.toJson),
    ("points", .array (ribbon.shape.points.map Point.toPair)),
    ("rotations", .array (ribbon.bearings.map Json.ofDouble))]

/-- The connections from a lane that has to be there. -/
def connections (files : String → FileState) (name : String) (edge : EdgeId) (lane : Nat) :
    Attempt Json := do
  let network ← load files Network.load name
  if network.edges.length ≤ edge.index then
    throw (.refused ("The network doesn't have " ++ toString edge))
  let lanes ← checked (network.laneCount edge)
  if lanes ≤ lane then
    throw (.refused (toString edge ++ " only has " ++ toString lanes ++ " lanes"))
  let found := (← checked (network.connections [] ⟨edge, lane⟩)).value
  return .array (← checked (found.targets.mapM (connectionJson found)))

def ofRequest (files : String → FileState) : Request → Attempt Json
  | .outline input settings kind closed width exaggeration =>
    outline files input settings kind closed width exaggeration
  | .circle x y radius steps => circle x y radius steps
  | .connections network edge lane => connections files network ⟨edge⟩ lane

/-- What the program writes for its arguments. -/
def ofArguments (files : String → FileState) (arguments : List String) : Attempt String :=
  match Request.ofArguments? arguments with
  | none => .error .usage
  | some request => return (← ofRequest files request).indented ++ "\n"

end Answer

end RoadSketch
