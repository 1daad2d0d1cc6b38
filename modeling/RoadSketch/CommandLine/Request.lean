import RoadSketch.CommandLine.Arguments
import RoadSketch.Dash.Color
import RoadSketch.Number.Reading

/-!
# Requests

What the command line asks for: the outline of a polyline, a circle as a polygon, or the connections
from a lane.
-/
namespace RoadSketch

inductive Request where
  | outline (input : String) (settings : Option String) (kind : OutlineKind) (closed : Bool)
    (width exaggeration : Float)
  | circle (x y radius : Float) (steps : Nat)
  | connections (network : String) (edge lane : Nat)

namespace Request

def outlineRules : ArgumentRules :=
  ⟨["settings", "contour-type", "width", "exaggeration"], ["closed"], 1⟩

def circleRules : ArgumentRules := ⟨["x", "y", "radius", "steps"], [], 0⟩

def connectionsRules : ArgumentRules := ⟨["edge", "lane"], [], 1⟩

def outline? (arguments : Arguments) : Option Request := do
  let input ← arguments.positionals.head?
  let settings ← arguments.option? "settings" none
  let kind ← OutlineKind.ofName? (← arguments.value? "contour-type" (some "inspect"))
  let closed ← arguments.flag? "closed"
  let width ← readDouble? (← arguments.value? "width" (some "1.0"))
  let exaggeration ← readDouble? (← arguments.value? "exaggeration" (some "1.0"))
  some (.outline input settings kind closed width exaggeration)

def circle? (arguments : Arguments) : Option Request := do
  let x ← readDouble? (← arguments.value? "x" none)
  let y ← readDouble? (← arguments.value? "y" none)
  let radius ← readDouble? (← arguments.value? "radius" none)
  let steps ← readCount? (← arguments.value? "steps" (some "16"))
  some (.circle x y radius steps)

def connections? (arguments : Arguments) : Option Request := do
  let network ← arguments.positionals.head?
  let edge ← readCount? (← arguments.value? "edge" none)
  let lane ← readCount? (← arguments.value? "lane" none)
  some (.connections network edge lane)

/-- The request that the arguments of the program make. -/
def ofArguments? : List String → Option Request
  | "dotted-contour" :: rest =>
    ((Arguments.none).collect? outlineRules none rest).bind outline?
  | "circle" :: rest => ((Arguments.none).collect? circleRules none rest).bind circle?
  | "connections" :: rest =>
    ((Arguments.none).collect? connectionsRules none rest).bind connections?
  | _ => none

def files : Request → List String
  | .outline input settings .. => input :: settings.toList
  | .circle .. => []
  | .connections network .. => [network]

end Request

end RoadSketch
